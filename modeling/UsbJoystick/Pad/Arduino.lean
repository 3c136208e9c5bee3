import UsbJoystick.Lib.Conduit

/-!
The ATmega328p of the joystick: `AT328p/arduino.c`.

The pin change interrupt latches a snapshot of the buttons into `state`, and the loop of `main`
tests it, reads it into `msg`, tests `msg`, sends it, waits, and clears `state`, in separate
steps between any two of which the interrupt may come. A snapshot can be replaced or cleared
before it is read, so the program loses snapshots; `Arduino.flow` says that it does nothing else
to them. What it may still send is at every program point one byte at most (`held`).

Between the reading and `state = 0` the program is deaf: what is latched there is cleared without
having been read (`Deaf`), and nothing else is.
-/

namespace UsbJoystick.Pad

open UsbJoystick.Lib

inductive ArduinoPc where
  | test -- `if(state!=0)`
  | read -- `msg = state | 0x20`
  | check -- `if(msg != 0x20)`
  | sendSerial -- `send_serial(msg)`, which waits for `UDRE0`
  | delay -- `_delay_ms(100)`
  | clear -- `state = 0`
  deriving DecidableEq, Repr

/-- The program of the ATmega328p. `state` is an `int` in the source; all values that are ever
stored in it have five bits. -/
structure Arduino where
  pc : ArduinoPc
  state : UInt8
  msg : UInt8
  deriving DecidableEq, Repr

inductive ArduinoInput where
  | pcint2 (pind : UInt8) -- the pin change interrupt, with the value of `PIND`
  | main (udre : Bool) -- a step of `main`, with the bit `UDRE0`
  deriving DecidableEq, Repr

/-- The snapshot of the buttons that the interrupt latches. -/
def snapshot (pind : UInt8) : UInt8 := (~~~pind &&& 0x7C) >>> 2

/-- The byte that stands for a snapshot on the line. -/
def message (state : UInt8) : UInt8 := state ||| 0x20

namespace Arduino

def step (a : Arduino) : ArduinoInput → Arduino
  | .pcint2 pind => { a with state := snapshot pind }
  | .main udre =>
    match a.pc with
    | .test => if a.state ≠ 0 then { a with pc := .read } else a
    | .read => { a with pc := .check, msg := message a.state }
    | .check => if a.msg ≠ 0x20 then { a with pc := .sendSerial } else { a with pc := .test }
    | .sendSerial => if udre then { a with pc := .delay } else a
    | .delay => { a with pc := .clear }
    | .clear => { a with pc := .test, state := 0 }

def sent (a : Arduino) : ArduinoInput → List UInt8
  | .main true => if a.pc = .sendSerial then [a.msg] else []
  | _ => []

def latched : ArduinoInput → List UInt8
  | .pcint2 pind => [snapshot pind]
  | .main _ => []

/-- After `init_serial`, `init_boutons` and `output_init`; the local `msg` has no value yet. -/
def initial (msg : UInt8) : Arduino := ⟨.test, 0, msg⟩

/-- The messages of the snapshots in a list that are not zero. -/
def messages (snapshots : List UInt8) : List UInt8 :=
  (snapshots.filter fun s => s ≠ 0).map message

/-! ### One step -/

/-- What the program may still send: the latched snapshot up to the reading, then the message
that was read, if it passes the test. After the sending there is nothing, since `state` is going
to be cleared. -/
def held (a : Arduino) : List UInt8 :=
  match a.pc with
  | .test | .read => messages [a.state]
  | .check => if a.msg ≠ 0x20 then [a.msg] else messages [a.state]
  | .sendSerial => [a.msg]
  | .delay | .clear => []

lemma messages_singleton (s : UInt8) : messages [s] = if s ≠ 0 then [message s] else [] := by
  by_cases h : s = 0 <;> simp [messages, h]

/-- Reading takes over the latched snapshot, or finds it zero. -/
lemma held_read (s : UInt8) :
    (if message s ≠ 0x20 then [message s] else messages [s]) = messages [s] := by
  rw [messages_singleton]
  by_cases hs : s = 0
  · subst hs
    decide
  · by_cases hm : message s = 0x20 <;> simp [hs, hm]

/-- **The program invents, duplicates and reorders nothing.** -/
theorem flow (a : Arduino) (i : ArduinoInput) :
    Flow a.held (messages (latched i)) (a.sent i) (a.step i).held := by
  obtain ⟨pc, state, msg⟩ := a
  cases i with
  | pcint2 pind =>
    -- the new snapshot replaces the old one, or comes too late and will be cleared
    cases pc with
    | test | read => exact Flow.replace (List.Sublist.refl _)
    | check =>
      by_cases hm : msg = 0x20
      · simp only [held, hm, step]
        exact Flow.replace (List.Sublist.refl _)
      · simp only [held, step, ne_eq, hm, not_false_eq_true, if_true]
        exact List.sublist_append_left _ _
    | sendSerial => exact List.sublist_append_left _ _
    | delay | clear => exact Flow.replace (List.nil_sublist _)
  | main udre =>
    cases pc with
    | test =>
      have hheld : (step ⟨.test, state, msg⟩ (.main udre)).held = messages [state] := by
        simp only [step]
        split_ifs <;> rfl
      rw [hheld]
      cases udre <;> exact Flow.idle
    | read =>
      have hheld : (step ⟨.read, state, msg⟩ (.main udre)).held = messages [state] :=
        held_read state
      rw [hheld]
      cases udre <;> exact Flow.idle
    | check =>
      have hheld : (step ⟨.check, state, msg⟩ (.main udre)).held = held ⟨.check, state, msg⟩ := by
        by_cases hm : msg = 0x20 <;> simp [step, held, hm]
      rw [hheld]
      cases udre <;> exact Flow.idle
    | sendSerial =>
      cases udre
      · exact Flow.idle
      · exact Flow.dequeue
    | delay => cases udre <;> exact Flow.idle
    | clear => cases udre <;> exact Flow.idle

/-- What is sent has passed the test of `msg`. -/
def Checked (a : Arduino) : Prop := a.pc = .sendSerial → a.msg ≠ 0x20

lemma Checked.step {a : Arduino} (h : a.Checked) (i : ArduinoInput) : (a.step i).Checked := by
  obtain ⟨pc, state, msg⟩ := a
  cases i with
  | pcint2 pind => exact h
  | main udre =>
    cases pc with
    | check =>
      by_cases hm : msg = 0x20
      · simp [Checked, Arduino.step, hm]
      · simp [Checked, Arduino.step, hm]
    | test =>
      simp only [Arduino.step]
      split_ifs <;> exact fun h => by cases h
    | sendSerial =>
      simp only [Arduino.step]
      split_ifs
      · exact fun h => by cases h
      · exact h
    | read | delay | clear => exact fun h => by cases h

lemma Checked.sent {a : Arduino} (h : a.Checked) (i : ArduinoInput) : 0x20 ∉ a.sent i := by
  cases i with
  | pcint2 pind => exact List.not_mem_nil
  | main udre =>
    cases udre
    · exact List.not_mem_nil
    · simp only [Arduino.sent]
      split_ifs with hpc
      · rw [List.mem_singleton]
        exact (h hpc).symm
      · exact List.not_mem_nil

/-! ### What `state = 0` overwrites -/

/-- What happens to `state`, in the order in which it happens: a snapshot is latched, it is read
into `msg`, and a message is sent. -/
inductive Mark where
  | latched (snapshot : UInt8)
  | read (snapshot : UInt8)
  | sent (msg : UInt8)
  deriving DecidableEq, Repr

def marks (a : Arduino) : ArduinoInput → List Mark
  | .pcint2 pind => [.latched (snapshot pind)]
  | .main udre =>
    match a.pc with
    | .read => [.read a.state]
    | .sendSerial => if udre then [.sent a.msg] else []
    | _ => []

/-- No press is lost if `state` is overwritten now: it is zero, or the snapshot that has just
been read and sent, and none has been latched since it was read. -/
def Overwritable (l : List Mark) (a : Arduino) : Prop :=
  a.state = 0 ∨ [.read a.state, .sent (message a.state)] <:+ l

instance (l : List Mark) (a : Arduino) : Decidable (Overwritable l a) := by
  unfold Overwritable; infer_instance

/-- The program has read `state` and is going to clear it without reading it again. -/
def Deaf (a : Arduino) : Prop :=
  match a.pc with
  | .test | .read => False
  | .check => a.msg ≠ 0x20
  | .sendSerial | .delay | .clear => True

instance (a : Arduino) : Decidable a.Deaf := by
  unfold Deaf; split <;> infer_instance

/-- No button is pressed while the program is deaf. -/
def Quiet (a : Arduino) : ArduinoInput → Prop
  | .pcint2 pind => a.Deaf → snapshot pind = 0
  | .main _ => True

instance (a : Arduino) (i : ArduinoInput) : Decidable (a.Quiet i) := by
  unfold Quiet; split <;> infer_instance

def arduino : Machine Arduino ArduinoInput where
  step a i := some (a.step i)

/-- What the marks say about a deaf program whose `state` is not zero: before the sending it has
just been read, after the sending it can be overwritten. -/
def Heard (l : List Mark) (a : Arduino) : Prop :=
  match a.pc with
  | .test | .read => True
  | .check | .sendSerial =>
    a.Deaf → a.state = 0 ∨ ([.read a.state] <:+ l ∧ a.msg = message a.state)
  | .delay | .clear => Overwritable l a

/-- **One quiet step.** -/
theorem Heard.step {l : List Mark} {a : Arduino} (h : Heard l a) {i : ArduinoInput}
    (hi : a.Quiet i) : Heard (l ++ a.marks i) (a.step i) := by
  obtain ⟨pc, state, msg⟩ := a
  cases i with
  | pcint2 pind =>
    -- the interrupt of a quiet step finds the program listening, or latches zero
    cases pc with
    | test | read => trivial
    | check | sendSerial => exact fun hdeaf => Or.inl (hi hdeaf)
    | delay | clear => exact Or.inl (hi trivial)
  | main udre =>
    cases pc with
    | test =>
      simp only [Arduino.step]
      split_ifs <;> trivial
    | read => exact fun _ => Or.inr ⟨List.suffix_append l _, rfl⟩
    | check =>
      simp only [Arduino.step, marks, List.append_nil]
      split_ifs with hmsg
      · exact fun _ => h hmsg
      · trivial
    | sendSerial =>
      cases udre
      · change Heard (l ++ []) ⟨.sendSerial, state, msg⟩
        rwa [List.append_nil]
      · rcases h trivial with h0 | ⟨⟨l', rfl⟩, hmsg⟩
        · exact Or.inl h0
        · obtain rfl : msg = message state := hmsg
          refine Or.inr ⟨l', ?_⟩
          rw [List.append_assoc]
          rfl
    | delay =>
      change Overwritable (l ++ []) _
      rwa [List.append_nil]
    | clear => trivial

theorem run_heard {msg : UInt8} {is : List ArduinoInput} {a : Arduino}
    (hC : arduino.Along Quiet (initial msg) is) (hrun : arduino.run (initial msg) is = some a) :
    Heard (arduino.log marks (initial msg) is) a := by
  refine Machine.along_induction
    (P := fun is a => Heard (arduino.log marks (initial msg) is) a) ?_ ?_ hC hrun
  · exact trivial
  · intro is a i a' hrun hheard hi hstep
    obtain rfl : a.step i = a' := Option.some_inj.1 hstep
    rw [Machine.log_snoc marks hrun]
    exact hheard.step hi

/-- What has been latched since the reading cannot be overwritten. -/
lemma not_overwritable {l : List Mark} {a : Arduino} (h0 : a.state ≠ 0)
    (h : (∃ s, l.getLast? = some (.latched s)) ∨ ∃ l' s b, l = l' ++ [.latched s, .sent b]) :
    ¬ Overwritable l a := by
  rintro (h0' | ⟨l', rfl⟩)
  · exact h0 h0'
  · rcases h with ⟨s, hs⟩ | ⟨l₁, s, b, hl⟩
    · simp at hs
    · have hl := (List.append_inj' hl rfl).2
      simp at hl

section Run

variable {msg : UInt8} {is : List ArduinoInput} {a : Arduino}

/-- **No press is clobbered if none comes while the program is deaf, and any that does is.** In a
run in which no button is pressed between the reading of `state` and `state = 0`, what is
overwritten is zero or has just been read and sent. After the first press that comes there, the
loop comes to `state = 0` and overwrites what was latched. -/
theorem press_kept_iff_quiet (hC : arduino.Along Quiet (initial msg) is)
    (hrun : arduino.run (initial msg) is = some a) :
    (a.pc = .clear → Overwritable (arduino.log marks (initial msg) is) a) ∧
    ∀ i, ¬ a.Quiet i → ∃ n a',
      arduino.run (initial msg) (is ++ i :: List.replicate n (.main true)) = some a' ∧
        a'.pc = .clear ∧ ¬ Overwritable
          (arduino.log marks (initial msg) (is ++ i :: List.replicate n (.main true))) a' := by
  have hheard := run_heard hC hrun
  obtain ⟨pc, state, msg'⟩ := a
  refine ⟨fun hpc => ?_, fun i hi => ?_⟩
  · obtain rfl : pc = .clear := hpc
    exact hheard
  · cases i with
    | main udre => exact absurd trivial hi
    | pcint2 pind =>
      obtain ⟨hdeaf, h0⟩ : Deaf ⟨pc, state, msg'⟩ ∧ ¬ snapshot pind = 0 := Classical.not_imp.1 hi
      -- it is enough to look at the rest of the pass
      suffices h : ∃ n a', arduino.run ⟨pc, state, msg'⟩
          (.pcint2 pind :: List.replicate n (.main true)) = some a' ∧ a'.pc = .clear ∧
          ¬ Overwritable (arduino.log marks (initial msg) is ++ arduino.log marks
            ⟨pc, state, msg'⟩ (.pcint2 pind :: List.replicate n (.main true))) a' by
        obtain ⟨n, a', hrun', hpc, hnot⟩ := h
        refine ⟨n, a', ?_, hpc, by rwa [Machine.log_append marks hrun]⟩
        rw [Machine.run_append, hrun]
        exact hrun'
      cases pc with
      | test | read => exact absurd hdeaf id
      | check =>
        -- the test of `msg` is passed
        have hcheck : Arduino.step ⟨.check, snapshot pind, msg'⟩ (.main true) =
            ⟨.sendSerial, snapshot pind, msg'⟩ := if_pos hdeaf
        have hsend : arduino.run ⟨.check, state, msg'⟩ [.pcint2 pind, .main true] =
            some ⟨.sendSerial, snapshot pind, msg'⟩ := congrArg some hcheck
        refine ⟨3, ⟨.clear, snapshot pind, msg'⟩, ?_, rfl, not_overwritable h0 (Or.inr ?_)⟩
        · exact Machine.run_append.trans (congrArg (Option.bind · _) hsend)
        · have hlog : arduino.log marks ⟨.check, state, msg'⟩
              ([.pcint2 pind, .main true] ++ List.replicate 2 (.main true)) =
                [.latched (snapshot pind), .sent msg'] := Machine.log_append marks hsend
          exact ⟨_, _, _, congrArg _ hlog⟩
      | sendSerial => exact ⟨2, _, rfl, rfl, not_overwritable h0 (Or.inr ⟨_, _, _, rfl⟩)⟩
      | delay => exact ⟨1, _, rfl, rfl, not_overwritable h0 (Or.inl ⟨_, List.getLast?_concat⟩)⟩
      | clear => exact ⟨0, _, rfl, rfl, not_overwritable h0 (Or.inl ⟨_, List.getLast?_concat⟩)⟩

end Run

/-- One press is read, sent and cleared. -/
theorem press_kept_one :
    ∃ a, arduino.run (initial 0) (.pcint2 0xF7 :: List.replicate 5 (.main true)) = some a ∧
      a.pc = .clear ∧ a.state = 2 ∧ Overwritable (arduino.log marks (initial 0)
        (.pcint2 0xF7 :: List.replicate 5 (.main true))) a := by
  have hC : arduino.Along Quiet (initial 0) (.pcint2 0xF7 :: List.replicate 5 (.main true)) := by
    unfold Machine.Along
    decide +kernel
  exact ⟨_, rfl, rfl, by decide, (press_kept_iff_quiet hC rfl).1 rfl⟩

/-- **A press can be clobbered**: a second button is pressed during the delay after the message of
the first. -/
theorem press_clobbered :
    ¬ ∀ (msg : UInt8) (is : List ArduinoInput) (a : Arduino),
      arduino.run (initial msg) is = some a → a.pc = .clear →
        Overwritable (arduino.log marks (initial msg) is) a := by
  intro hall
  have h := hall 0 (.pcint2 0xF7 :: List.replicate 4 (.main true) ++ [.pcint2 0xEF, .main true]) _
    rfl rfl
  revert h
  decide +kernel

end Arduino

end UsbJoystick.Pad
