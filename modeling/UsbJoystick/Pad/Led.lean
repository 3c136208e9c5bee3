import UsbJoystick.Lib.Machine

/-!
The LED of the joystick: `ISR(USART_RX_vect)` of `AT328p/arduino.c`.

The receiver of USART0 is a queue. Bytes come in at any time, the interrupt runs while there is
one, every evaluation of `UDR0` takes the next byte out, and on an empty queue it gives an
arbitrary byte. The handler evaluates `UDR0` in each of its two comparisons, so a command is
compared with 49 or with 48 and never with both: the handler overlooks an `off` that comes first
and an `on` that comes second. `Settles` says when this does no harm.

The game sends every command twice. If both bytes are there when the handler runs, nothing is
overlooked (`settles_of_paired`).
-/

namespace UsbJoystick.Pad

open UsbJoystick.Lib

/-- The commands of the serial protocol. -/
inductive Command where
  | off
  | on
  deriving DecidableEq, Repr

def Command.byte : Command → UInt8
  | .off => 48
  | .on => 49

inductive LedPc where
  | idle -- no handler is running, or it is at `if(UDR0 == 49)`
  | second (first : Command) -- at `if(UDR0 == 48)`, after the first comparison has read `first`
  deriving DecidableEq, Repr

/-- The receiver, its handler and the port of the LED. -/
structure Led where
  pc : LedPc
  fifo : List Command
  portb : UInt8
  deriving DecidableEq, Repr

inductive LedInput where
  | receive (command : Command)
  | isr (floating : UInt8) -- one comparison, with what `UDR0` reads on an empty queue
  deriving DecidableEq, Repr

/-- The LED is on. -/
def Lit (portb : UInt8) : Prop := portb &&& 0x20 ≠ 0

instance (portb : UInt8) : Decidable (Lit portb) := by unfold Lit; infer_instance

section Port

variable (portb : UInt8)

lemma lit_or : Lit (portb ||| 0x20) := by
  have h : ∀ b : BitVec 8, (b ||| 0x20#8) &&& 0x20#8 ≠ 0 := by decide
  intro h0
  exact h portb.toBitVec (congrArg UInt8.toBitVec h0)

lemma not_lit_and : ¬ Lit (portb &&& 0xDF) := by
  rw [Lit, not_not, UInt8.and_assoc]
  exact UInt8.and_zero

/-- What the second comparison makes of the LED. -/
lemma lit_second (udr0 : UInt8) :
    Lit (if udr0 = 48 then portb &&& 0xDF else portb) ↔ udr0 ≠ 48 ∧ Lit portb := by
  split_ifs with h
  · exact iff_of_false (not_lit_and portb) fun hlit => hlit.1 h
  · exact ⟨fun hlit => ⟨h, hlit⟩, And.right⟩

/-- Neither switch touches the other bits. -/
lemma or_and_mask : (portb ||| 0x20) &&& 0xDF = portb &&& 0xDF := by
  have h : ∀ b : BitVec 8, (b ||| 0x20#8) &&& 0xDF#8 = b &&& 0xDF#8 := by decide
  exact UInt8.toBitVec_inj.1 (h portb.toBitVec)

lemma and_and_mask : (portb &&& 0xDF) &&& 0xDF = portb &&& 0xDF := by
  rw [UInt8.and_assoc]
  rfl

end Port

namespace Led

/-- `UDR0`. -/
def udr0 (r : Led) (floating : UInt8) : UInt8 := (r.fifo.head?.map Command.byte).getD floating

def step (r : Led) : LedInput → Option Led
  | .receive command => some { r with fifo := r.fifo ++ [command] }
  | .isr floating =>
    match r.pc with
    | .idle =>
      match r.fifo with
      | [] => none
      | first :: rest =>
        some ⟨.second first, rest, if first.byte = 49 then r.portb ||| 0x20 else r.portb⟩
    | .second _ =>
      some ⟨.idle, r.fifo.tail, if r.udr0 floating = 48 then r.portb &&& 0xDF else r.portb⟩

def led : Machine Led LedInput where
  step := step

def received (_ : Led) : LedInput → List Command
  | .receive command => [command]
  | .isr _ => []

def initial (portb : UInt8) : Led := ⟨.idle, [], portb⟩

/-- The LED shows the last command, or what it showed before the first one. -/
def Follows (portb₀ : UInt8) (l : List Command) (portb : UInt8) : Prop :=
  Lit portb ↔ l.getLast?.elim (Lit portb₀) fun command => command = .on

lemma follows_concat (portb₀ : UInt8) (l : List Command) (command : Command) (portb : UInt8) :
    Follows portb₀ (l ++ [command]) portb ↔ (Lit portb ↔ command = .on) := by
  rw [Follows, List.getLast?_concat]
  rfl

/-- What the second comparison needs, if it empties the queue, to leave the LED as the last
command wants it. -/
def Settles (r : Led) : LedInput → Prop
  | .receive _ => True
  | .isr floating =>
    match r.pc with
    | .idle => True
    | .second first =>
      match r.fifo with
      | [] => if first = .on then floating ≠ 48 else floating = 48 ∨ ¬ Lit r.portb
      | [command] => command = .off ∨ Lit r.portb
      | _ :: _ :: _ => True

instance (r : Led) (i : LedInput) : Decidable (r.Settles i) := by
  unfold Settles
  split
  · infer_instance
  · split
    · infer_instance
    · split <;> infer_instance

/-! ### One step -/

/-- What a step can do. -/
inductive Turn : Led → LedInput → Led → Prop
  | receive (pc : LedPc) (fifo : List Command) (portb : UInt8) (command : Command) :
    Turn ⟨pc, fifo, portb⟩ (.receive command) ⟨pc, fifo ++ [command], portb⟩
  | first (first : Command) (rest : List Command) (portb floating : UInt8) :
    Turn ⟨.idle, first :: rest, portb⟩ (.isr floating)
      ⟨.second first, rest, if first.byte = 49 then portb ||| 0x20 else portb⟩
  | second (first : Command) (fifo : List Command) (portb floating : UInt8) :
    Turn ⟨.second first, fifo, portb⟩ (.isr floating) ⟨.idle, fifo.tail,
      if udr0 ⟨.second first, fifo, portb⟩ floating = 48 then portb &&& 0xDF else portb⟩

/-- Where the commands received are: taken out, in the hands of the handler, or in the queue. The
first comparison has switched the LED on for an `on`. -/
def Queued (l : List Command) (r : Led) : Prop :=
  match r.pc with
  | .idle => r.fifo <:+ l
  | .second first => first :: r.fifo <:+ l ∧ (first = .on → Lit r.portb)

section Step

variable {l : List Command} {r r' : Led} {i : LedInput}

lemma step_turn (hstep : r.step i = some r') : Turn r i r' := by
  obtain ⟨pc, fifo, portb⟩ := r
  cases i with
  | receive command =>
    obtain rfl := Option.some_inj.1 hstep
    exact .receive pc fifo portb command
  | isr floating =>
    cases pc with
    | idle =>
      cases fifo with
      | nil => cases hstep
      | cons first rest =>
        obtain rfl := Option.some_inj.1 hstep
        exact .first first rest portb floating
    | second first =>
      obtain rfl := Option.some_inj.1 hstep
      exact .second first fifo portb floating

theorem Queued.step (h : Queued l r) (hstep : r.step i = some r') :
    Queued (l ++ r.received i) r' := by
  cases step_turn hstep with
  | receive pc fifo portb command =>
    cases pc with
    | idle =>
      obtain ⟨taken, rfl⟩ := h
      exact ⟨taken, (List.append_assoc _ _ _).symm⟩
    | second first =>
      obtain ⟨⟨taken, rfl⟩, hlit⟩ := h
      exact ⟨⟨taken, by simp [received]⟩, hlit⟩
  | first first rest portb floating =>
    rw [received, List.append_nil]
    refine ⟨h, ?_⟩
    rintro rfl
    exact lit_or portb
  | second first fifo portb floating =>
    rw [received, List.append_nil]
    exact (List.tail_suffix fifo).trans ((List.suffix_cons first fifo).trans h.1)

/-- No step touches the bits of the port that are not the LED's. -/
lemma step_mask (hstep : r.step i = some r') : r'.portb &&& 0xDF = r.portb &&& 0xDF := by
  cases step_turn hstep with
  | receive => rfl
  | first first rest portb floating =>
    simp only
    split_ifs
    · exact or_and_mask portb
    · rfl
  | second first fifo portb floating =>
    simp only
    split_ifs
    · exact and_and_mask portb
    · rfl

/-- The second comparison, which byte it reads and which command is then the last. -/
lemma follows_second_iff {portb₀ portb floating : UInt8} {first : Command}
    {taken fifo : List Command} (hlit : first = .on → Lit portb) :
    (fifo.tail = [] → Follows portb₀ (taken ++ first :: fifo)
      (if udr0 ⟨.second first, fifo, portb⟩ floating = 48 then portb &&& 0xDF else portb)) ↔
        Settles ⟨.second first, fifo, portb⟩ (.isr floating) := by
  match fifo with
  | [] =>
    rw [List.tail_nil, forall_prop_of_true rfl, follows_concat, lit_second]
    cases first with
    | on =>
      change (floating ≠ 48 ∧ Lit portb ↔ Command.on = .on) ↔ floating ≠ 48
      simp [hlit rfl]
    | off =>
      change (floating ≠ 48 ∧ Lit portb ↔ Command.off = .on) ↔ floating = 48 ∨ ¬ Lit portb
      simp [imp_iff_not_or]
  | [command] =>
    have hlast : taken ++ [first, command] = taken ++ [first] ++ [command] := by simp
    rw [List.tail_cons, forall_prop_of_true rfl, hlast, follows_concat, lit_second]
    change (command.byte ≠ 48 ∧ Lit portb ↔ command = .on) ↔ (command = .off ∨ Lit portb)
    cases command <;> simp [Command.byte]
  | _ :: _ :: _ =>
    -- the queue is not empty yet
    exact iff_of_true (fun hnil => by cases hnil) trivial

/-- **A step that empties the queue leaves the LED as the last command wants it exactly if it
settles.** -/
lemma follows_step_iff {portb₀ : UInt8} (h : Queued l r) (hstep : r.step i = some r') :
    (r'.pc = .idle → r'.fifo = [] → Follows portb₀ (l ++ r.received i) r'.portb) ↔
      r.Settles i := by
  cases step_turn hstep with
  | receive pc fifo portb command =>
    refine iff_of_true (fun _ hnil => ?_) trivial
    simp at hnil
  | first => exact iff_of_true (fun hpc => by cases hpc) trivial
  | second first fifo portb floating =>
    rw [received, List.append_nil]
    obtain ⟨⟨taken, rfl⟩, hlit⟩ := h
    exact (forall_prop_of_true rfl).trans (follows_second_iff hlit)

end Step

/-! ### Whole runs -/

section Run

variable {portb : UInt8} {es : List LedInput} {r : Led}

theorem run_queued (hrun : led.run (initial portb) es = some r) :
    Queued (led.log received (initial portb) es) r :=
  Machine.log_inv (R := Queued) (List.nil_suffix) (fun _ _ _ _ h hstep => h.step hstep) hrun

/-- **The LED follows the last command as long as the handler settles, and no longer.** Whenever
no handler runs and the queue is empty, the LED shows the last command received, in all states of
a run exactly when the last comparison before each of these states meets its condition. The other
bits of the port never change. -/
theorem led_follows_iff_settles (hrun : led.run (initial portb) es = some r) :
    ((∀ es' r', es' <+: es → led.run (initial portb) es' = some r' → r'.pc = .idle →
      r'.fifo = [] → Follows portb (led.log received (initial portb) es') r'.portb) ↔
        led.Along Settles (initial portb) es) ∧
    r.portb &&& 0xDF = portb &&& 0xDF := by
  constructor
  · refine Machine.forall_runs_iff_along (M := led) (I := fun es r => r.pc = .idle →
      r.fifo = [] → Follows portb (led.log received (initial portb) es) r.portb) ?_ ?_ hrun
    · exact fun _ _ => Iff.rfl
    · intro es r i r' hrun _ hstep
      rw [Machine.log_snoc received hrun]
      exact follows_step_iff (run_queued hrun) hstep
  · refine Machine.run_inv (I := fun r => r.portb &&& 0xDF = portb &&& 0xDF) rfl ?_ hrun
    intro r i r' h hstep
    rw [step_mask hstep, h]

/-- Two commands `on` are received and handled by one interrupt. -/
theorem led_follows_on : ∃ r, led.run (initial 0) [.receive .on, .receive .on, .isr 0, .isr 0] =
    some r ∧ r.pc = .idle ∧ r.fifo = [] ∧ Lit r.portb := by
  have hC : led.Along Settles (initial 0) [.receive .on, .receive .on, .isr 0, .isr 0] := by
    unfold Machine.Along
    decide +kernel
  refine ⟨_, rfl, rfl, rfl, ?_⟩
  exact ((led_follows_iff_settles rfl).1.2 hC _ _ (List.prefix_refl _) rfl rfl rfl).2 rfl

/-- **The LED can stay off after the last command `on`**: an `off` and an `on` are received before
the handler runs, and each comparison sees the command that is not its own. -/
theorem led_overlooks_on :
    ¬ ∀ (portb : UInt8) (es : List LedInput) (r : Led), led.run (initial portb) es = some r →
      r.pc = .idle → r.fifo = [] → (Lit r.portb ↔
        (led.log received (initial portb) es).getLast? = some .on) := by
  intro hall
  have h := hall 0 [.receive .off, .receive .on, .isr 0, .isr 0] _ rfl rfl rfl
  revert h
  decide +kernel

/-- The second comparison finds the command that the first has found. -/
def Paired (r : Led) : LedInput → Prop
  | .receive _ => True
  | .isr _ => ∀ first, r.pc = .second first → r.fifo.head? = some first

/-- **Commands that are sent twice settle**, if both bytes are there when the handler runs. -/
theorem settles_of_paired (hC : led.Along Paired (initial portb) es)
    (hrun : led.run (initial portb) es = some r) : led.Along Settles (initial portb) es := by
  refine Machine.along_induction (P := fun es _ => led.Along Settles (initial portb) es) ?_ ?_
    hC hrun
  · simp [Machine.Along]
  · intro es r i r' hrun h hpaired _
    refine (Machine.along_snoc hrun).2 ⟨h, ?_⟩
    have hqueued := run_queued hrun
    obtain ⟨pc, fifo, portb⟩ := r
    cases i with
    | receive command => trivial
    | isr floating =>
      cases pc with
      | idle => trivial
      | second first =>
        obtain ⟨rest, rfl⟩ : ∃ rest, fifo = first :: rest :=
          ⟨_, (List.cons_head?_tail (hpaired first rfl)).symm⟩
        cases rest with
        | nil =>
          cases first with
          | off => exact Or.inl rfl
          | on => exact Or.inr (hqueued.2 rfl)
        | cons _ _ => trivial

/-! ### Commands that are sent twice -/

/-- Every command comes twice. -/
def Doubled (l : List Command) : Prop := ∃ cs : List Command, l = cs.flatMap fun c => [c, c]

lemma Doubled.last_two {l : List Command} {a b : Command} (h : Doubled (l ++ [a, b])) : a = b := by
  obtain ⟨cs, hcs⟩ := h
  rcases List.eq_nil_or_concat cs with rfl | ⟨cs, c, rfl⟩
  · simp at hcs
  · rw [List.concat_eq_append, List.flatMap_append] at hcs
    have hlast := (List.append_inj' hcs rfl).2
    simp at hlast
    rw [hlast.1, hlast.2]

/-- On an empty queue `UDR0` reads the byte again that was read last. -/
def Echoes (r : Led) : LedInput → Prop
  | .receive _ => True
  | .isr floating => ∀ first, r.pc = .second first → r.fifo = [] → floating = first.byte

instance (r : Led) (i : LedInput) : Decidable (r.Echoes i) := by
  cases i with
  | receive => exact isTrue trivial
  | isr floating =>
    obtain ⟨pc, fifo, portb⟩ := r
    cases pc with
    | idle => exact isTrue fun _ h => by cases h
    | second first =>
      exact decidable_of_iff (fifo = [] → floating = first.byte)
        ⟨fun h f hf => by cases hf; exact h, fun h => h first rfl⟩

/-- What is taken out last settles: alone it is compared twice, and with its double it is not
overlooked. -/
lemma settles_of_doubled {l : List Command} {r : Led} {i : LedInput} (hq : Queued l r)
    (hi : r.Echoes i) (hl : Doubled (l ++ r.received i)) : r.Settles i := by
  obtain ⟨pc, fifo, portb⟩ := r
  cases i with
  | receive command => trivial
  | isr floating =>
    rw [received, List.append_nil] at hl
    cases pc with
    | idle => trivial
    | second first =>
      obtain ⟨⟨taken, rfl⟩, hlit⟩ := hq
      match fifo with
      | [] =>
        obtain rfl : floating = first.byte := hi first rfl rfl
        cases first
        · exact Or.inl rfl
        · show (49 : UInt8) ≠ 48
          decide
      | [command] =>
        obtain rfl : first = command := hl.last_two
        cases first
        · exact Or.inl rfl
        · exact Or.inr (hlit rfl)
      | _ :: _ :: _ => trivial

/-- **Sending every command twice makes up for the handler**: however its runs fall between the
bytes, the LED shows the last command when all have come twice and have been handled. -/
theorem follows_of_doubled (hC : led.Along Echoes (initial portb) es)
    (hrun : led.run (initial portb) es = some r) (hpc : r.pc = .idle) (hfifo : r.fifo = [])
    (hl : Doubled (led.log received (initial portb) es)) :
    Follows portb (led.log received (initial portb) es) r.portb := by
  refine Machine.along_induction (P := fun es r => r.pc = .idle → r.fifo = [] →
    Doubled (led.log received (initial portb) es) →
      Follows portb (led.log received (initial portb) es) r.portb) ?_ ?_ hC hrun hpc hfifo hl
  · exact fun _ _ _ => Iff.rfl
  · intro es r i r' hrun _ hi hstep hpc hfifo hl
    have hqueued := run_queued hrun
    rw [Machine.log_snoc received hrun] at hl ⊢
    exact (follows_step_iff hqueued hstep).2 (settles_of_doubled hqueued hi hl) hpc hfifo

end Run

end Led

end UsbJoystick.Pad
