import UsbJoystick.Pad.Delivery

/-!
The commands of the host, and the runs in which a reset of the bus does no harm.

What goes out on the serial line is what `ReceiveNextReport` has read, in every run
(`commands_relayed`). From which endpoint it has been read is another question: `USB_GEN_vect`
selects the control endpoint after a reset, and if this happens in the middle of `PAD_Task`, a byte
of the control endpoint is taken for a command. The runs in which it does not happen are those in
which the bus is reset, and the reset is seen by the interrupt, outside of the calls of `PAD_Task`
(`ResetApart`). In these, however many resets there are, all statements of `PAD_Task` find their
endpoint selected and configured (`run_attended`).
-/

namespace UsbJoystick.Pad.Firmware

open Lib Usb

/-! ### Resets between the calls of `PAD_Task` -/

/-- `PAD_Task` is not running: nothing is left of it, except for its call. -/
def Idle (todo : List Stmt) : Prop := ∀ a ∈ todo, a.pad = true → a = .padTask

instance : DecidablePred Idle := fun todo =>
  inferInstanceAs (Decidable (∀ a ∈ todo, a.pad = true → a = .padTask))

/-- The bus is reset while `PAD_Task` is not running, and `USB_GEN_vect` has seen the reset before
`PAD_Task` looks at the state of the device. -/
def ResetApart (c : Program.Config Device Stmt) : Program.Event Answer Interrupt → Prop
  | .interrupt (.reset _) => Idle c.todo
  | .interrupt _ => True
  | .main _ => c.todo.head? = some .padTask → c.state.eorsti = false

instance (c : Program.Config Device Stmt) (e : Program.Event Answer Interrupt) :
    Decidable (ResetApart c e) := by
  cases e with
  | main i => exact inferInstanceAs (Decidable (c.todo.head? = some .padTask → _ = false))
  | interrupt e => cases e <;> unfold ResetApart <;> infer_instance

/-- `PAD_Task` is not running, or its statements are going to find their endpoints. -/
def Attended (signature : ℕ → UInt8) (c : Program.Config Device Stmt) : Prop :=
  Idle c.todo ∨ (program signature).Wp NoReset Works (fun _ => True) c.todo c.state

section Resets

variable {signature : ℕ → UInt8} {d d₀ : Device} {a : Stmt} {as : List Stmt} {n : ℕ} {pc : RelayPc}
  {c c' : Program.Config Device Stmt} {es : List (Program.Event Answer Interrupt)}
  {e : Program.Event Answer Interrupt}

lemma pad_of_wants (h : a.wants = some n) : a.pad = true := by
  cases a <;> first | rfl | cases h

lemma idle_body : Idle [.usbTask, .padTask] := by decide

/-- A call of `PAD_Task` is the last thing to be done in a turn of the main loop. -/
lemma Phase.of_padTask {l : List Stmt} (h : Phase (.padTask :: l) pc) : l = [] := by
  rcases h with h | ⟨h, -⟩
  · cases h
    rfl
  · cases h

lemma wp_of_not_pad (has : ∀ a ∈ as, a.pad = false) :
    (program signature).Wp NoReset Works (fun _ => True) as d := by
  refine Program.wp_of_class (fun a => a.pad = false) (fun _ _ _ _ => trivial) ?_ ?_ has trivial
  · intro a d ha _ n hn
    exact absurd (pad_of_wants hn) (by simp [ha])
  · exact fun a i d ha _ => ⟨pad_exec signature ha, trivial⟩

lemma Attended.works (h : Attended signature ⟨a :: as, d⟩) : Works a d := by
  rcases h with hidle | hwp
  · intro n hn
    obtain rfl := hidle a List.mem_cons_self (pad_of_wants hn)
    cases hn
  · exact hwp.guard

/-- **A step, with a reset or without.** -/
theorem Attended.step (h : Attended signature c) (hboot : Booted d₀)
    (hrun : (program signature).machine.run ⟨[.usbTask, .padTask], d₀⟩ es = some c)
    (he : ResetApart c e) (hstep : (program signature).machine.step c e = some c') :
    Attended signature c' := by
  obtain ⟨todo, d⟩ := c
  cases e with
  | interrupt e =>
    obtain rfl := Option.some_inj.1 hstep
    rcases h with hidle | hwp
    · exact Or.inl hidle
    · by_cases hno : NoReset e d
      · exact Or.inr (hwp.interrupt hno)
      · obtain ⟨config, rfl⟩ : ∃ config, e = .reset config := by simpa [NoReset] using hno
        exact Or.inl he
  | main i =>
    cases todo with
    | nil =>
      obtain rfl := Option.some_inj.1 hstep
      exact Or.inl idle_body
    | cons a as =>
      obtain rfl := Option.some_inj.1 hstep
      rcases h with hidle | hwp
      · cases ha : a.pad with
        | false =>
          left
          intro b hb hpad
          rcases List.mem_append.1 hb with hb | hb
          · exact absurd hpad (by simp [pad_exec signature ha b hb])
          · exact hidle b (List.mem_cons_of_mem a hb) hpad
        | true =>
          -- the call of `PAD_Task`, after which there is nothing else of it
          obtain rfl := hidle a List.mem_cons_self ha
          obtain ⟨pc, hphase⟩ := run_phase hrun
          have hlast : skeleton as = [] := (skeleton_cons ha as ▸ hphase).of_padTask
          have has : ∀ b ∈ as, b.pad = false := by
            simpa [skeleton] using hlast
          have hwp := (run_wp_padTask hboot hrun rfl (he rfl)).cons fun d _ => wp_of_not_pad has
          exact Or.inr (hwp.exec i)
      · exact Or.inr (hwp.exec i)

/-- **`PAD_Task` works with its own endpoints**, if all resets stay apart from it. -/
theorem run_attended (hboot : Booted d₀)
    (hC : (program signature).machine.Along ResetApart ⟨[.usbTask, .padTask], d₀⟩ es)
    (hrun : (program signature).machine.run ⟨[.usbTask, .padTask], d₀⟩ es = some c) :
    Attended signature c :=
  Machine.along_induction (P := fun _ c => Attended signature c) (Or.inl idle_body)
    (fun _ _ _ _ hrun h he hstep => h.step hboot hrun he hstep) hC hrun

end Resets

/-! ### Commands -/

/-- What `ReceiveNextReport` reads, with the endpoint that is selected at that time. -/
def commandsRead (c : Program.Config Device Stmt) :
    Program.Event Answer Interrupt → List (ℕ × UInt8)
  | .main i => if c.todo.head? = some .readReport then [(c.state.uenum, i.byte)] else []
  | .interrupt _ => []

/-- What goes out on the serial line. -/
def commandsSent (c : Program.Config Device Stmt) : Program.Event Answer Interrupt → List UInt8
  | .main i => if c.todo.head? = some .serialSendByte ∧ i.yes then [c.state.ledReport] else []
  | .interrupt _ => []

/-- The byte that waits for the transmitter. -/
def waiting (c : Program.Config Device Stmt) : List UInt8 :=
  if (skeleton c.todo).head? = some .serialSendByte then [c.state.ledReport] else []

section Commands

variable {signature : ℕ → UInt8} {d₀ : Device} {pc : RelayPc} {c c' : Program.Config Device Stmt}
  {es : List (Program.Event Answer Interrupt)} {e : Program.Event Answer Interrupt}

lemma ledReport_interrupt (e : Interrupt) (d : Device) :
    (interrupt e d).ledReport = d.ledReport := by
  cases e with
  | usbGen suspi wakeupi cfgok =>
    exact congrArg Relay.ledReport (relay_usbGen .usbTask suspi wakeupi cfgok)
  | _ => rfl

lemma Phase.of_readReport {l : List Stmt} (h : Phase (.readReport :: l) pc) :
    l = [.serialSendByte, .releaseReport] := by
  rcases h with h | ⟨h, -⟩
  · cases h
    rfl
  · cases h

lemma Phase.of_serialSendByte {l : List Stmt} (h : Phase (.serialSendByte :: l) pc) :
    l = [.releaseReport] := by
  rcases h with h | ⟨h, -⟩
  · cases h
    rfl
  · cases h

/-- `Serial_SendByte` is called right after `Endpoint_Read_8`, and nowhere else. -/
lemma head_exec (i : Answer) (d : Device) {a : Stmt} {l : List Stmt} (h : Phase (a :: l) pc)
    (hread : a ≠ .readReport) (hsend : a ≠ .serialSendByte) :
    (skeleton (exec signature a i d).1 ++ l).head? ≠ some .serialSendByte := by
  rcases h with h | ⟨h, -⟩
  · cases h with
    | padTask | testSend | ready | waitUntilReady | writeLoop | outReceived | outReady =>
      simp only [exec, orNothing]
      split_ifs <;> decide
    | outRead => exact absurd rfl hread
    | outSend => exact absurd rfl hsend
    | writeByte | clearIN | clearState | clearOUT => simp [exec, skeleton]
  · obtain ⟨rfl, rfl⟩ := List.cons_eq_cons.1 h
    simp [exec, skeleton]

/-- **A step of the firmware loses nothing of what it has read.** -/
theorem pipe_step (hphase : Phase (skeleton c.todo) pc)
    (hstep : (program signature).machine.step c e = some c') :
    Pipe (waiting c) ((commandsRead c e).map Prod.snd) (commandsSent c e) (waiting c') := by
  obtain ⟨todo, d⟩ := c
  cases e with
  | interrupt e =>
    obtain rfl := Option.some_inj.1 hstep
    simp only [waiting, program, ledReport_interrupt]
    exact Pipe.idle
  | main i =>
    cases todo with
    | nil =>
      obtain rfl := Option.some_inj.1 hstep
      exact Pipe.idle
    | cons a as =>
      obtain rfl := Option.some_inj.1 hstep
      cases ha : a.pad with
      | false =>
        have hne : a ≠ .readReport ∧ a ≠ .serialSendByte := by
          constructor <;> rintro rfl <;> cases ha
        have hled : (exec signature a i d).2.ledReport = d.ledReport :=
          congrArg Relay.ledReport (relay_exec .usbTask ha)
        show Pipe (waiting ⟨a :: as, d⟩) _ _
          (waiting ⟨(exec signature a i d).1 ++ as, (exec signature a i d).2⟩)
        simp only [waiting, commandsRead, commandsSent, List.head?_cons, Option.some_inj, hne.1,
          hne.2, false_and, if_false, List.map_nil, skeleton_exec ha, hled]
        exact Pipe.idle
      | true =>
        have hphase : Phase (a :: skeleton as) pc := skeleton_cons ha as ▸ hphase
        have hnone : ∀ c : Program.Config Device Stmt,
            (skeleton c.todo).head? ≠ some .serialSendByte → waiting c = [] := fun _ h => if_neg h
        have hone : ∀ c : Program.Config Device Stmt,
            (skeleton c.todo).head? = some .serialSendByte → waiting c = [c.state.ledReport] :=
          fun _ h => if_pos h
        by_cases hread : a = .readReport
        · subst hread
          have hl : skeleton as = [.serialSendByte, .releaseReport] := hphase.of_readReport
          show Pipe (waiting ⟨.readReport :: as, d⟩) [i.byte] [] (waiting ⟨as, _⟩)
          rw [hnone ⟨_, d⟩ (by simp [skeleton_cons ha]), hone ⟨as, _⟩ (by simp [hl])]
          exact Pipe.enqueue
        by_cases hsend : a = .serialSendByte
        · subst hsend
          have hl : skeleton as = [.releaseReport] := hphase.of_serialSendByte
          obtain ⟨yes, timeout, byte, header⟩ := i
          rw [hone ⟨_, d⟩ (by simp [skeleton_cons ha])]
          cases yes with
          | true =>
            show Pipe [d.ledReport] [] [d.ledReport] (waiting ⟨as, d⟩)
            rw [hnone ⟨as, d⟩ (by simp [hl])]
            exact Pipe.dequeue
          | false =>
            show Pipe [d.ledReport] [] [] (waiting ⟨.serialSendByte :: as, d⟩)
            rw [hone ⟨_, d⟩ (by simp [skeleton_cons ha])]
            exact Pipe.idle
        have hhead : (skeleton ((exec signature a i d).1 ++ as)).head? ≠ some .serialSendByte := by
          rw [skeleton, List.filter_append]
          exact head_exec i d hphase hread hsend
        show Pipe (waiting ⟨a :: as, d⟩) ((commandsRead ⟨a :: as, d⟩ (.main i)).map Prod.snd)
          (commandsSent ⟨a :: as, d⟩ (.main i))
          (waiting ⟨(exec signature a i d).1 ++ as, (exec signature a i d).2⟩)
        rw [hnone ⟨_, d⟩ (by simp [skeleton_cons ha, hsend]), hnone ⟨_, _⟩ hhead]
        simp only [commandsRead, commandsSent, List.head?_cons, Option.some_inj, hread, hsend,
          false_and, if_false, List.map_nil]
        exact Pipe.idle

/-- What is sent has been read, and all but the byte that waits for the transmitter is sent. -/
lemma pipe_run (hrun : (program signature).machine.run ⟨[.usbTask, .padTask], d₀⟩ es = some c) :
    Pipe [] (((program signature).machine.log commandsRead ⟨[.usbTask, .padTask], d₀⟩ es).map
        Prod.snd)
      ((program signature).machine.log commandsSent ⟨[.usbTask, .padTask], d₀⟩ es)
      (waiting c) := by
  have hpipe := Pipe.log (C := fun _ _ => True) waiting (fun es c e c' hrun _ hstep => by
    obtain ⟨pc, hphase⟩ := run_phase hrun
    exact pipe_step hphase hstep) (fun _ _ => trivial) hrun
  rwa [Machine.log, ← List.map_flatMap] at hpipe

lemma uenum_commandsRead (h : Attended signature c) : ∀ x ∈ commandsRead c e, x.1 = PAD_OUT := by
  obtain ⟨todo, d⟩ := c
  intro x hx
  cases e with
  | interrupt e => cases hx
  | main i =>
    rcases List.mem_ite_nil_right.1 hx with ⟨hhead, hx⟩
    obtain ⟨as, rfl⟩ := List.head?_eq_some_iff.1 hhead
    rw [List.mem_singleton.1 hx]
    exact (h.works PAD_OUT rfl).1

/-- A command is at the OUT endpoint, and is passed on. -/
def commanded : List (Program.Event Answer Interrupt) :=
  enumeration ++ List.replicate 7 (.main { byte := 49 })

/-- If there is a reset after the selection, a byte of the control endpoint is taken for a
command. -/
example : (program fun _ => 0).machine.log commandsRead ⟨[.usbTask, .padTask], bootDevice⟩
    (enumeration ++ (List.replicate 3 (.main {}) ++ (busReset ++
      List.replicate 4 (.main { byte := 77 })))) = [(0, 77)] := by decide +kernel

end Commands

end UsbJoystick.Pad.Firmware
