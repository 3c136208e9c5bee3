import UsbJoystick.Lib.Simulation
import UsbJoystick.Pad.Commands

/-!
The firmware is the relay, as long as the resets of the bus stay apart from `PAD_Task`.

`Pad.Relay` knows nothing of requests, endpoints that have to be selected, suspends, resets or
registers. The theorem `firmware_refines_relay` says in which runs it may: from the start on, and
with any number of resets that meet `ResetApart`, the firmware takes the steps of the relay, with
other statements in between that the relay does not see. So what is known of the runs of the relay
can be used for the firmware. `newest_byte_written` does this for the newest byte
(`Relay.run_kept`).

The relation between the two is `Tracks`. That the bank is empty, except between the write and the
release (`Relay.Clean`), is why a request or a reset cannot empty or fill it at the wrong time; that
the release follows the write at once (`Direct`) is why no request is answered in between. The
latter needs an endpoint that is still free when it is written to, which is part of `Undisturbed`.
-/

namespace UsbJoystick.Pad

open Lib Usb

namespace Relay

variable {r : Relay} {yes : Bool} {report : UInt8}

/-- The bank is empty, except between the write and the release. -/
def Clean (r : Relay) : Prop := r.pc ≠ .clearIN → r.bank = []

lemma Clean.step (h : r.Clean) (i : RelayInput) : (r.step i).Clean := by
  obtain ⟨pc, data, state, led, bank⟩ := r
  cases i with
  | rx udr => exact h
  | main yes report =>
    cases pc with
    | write => exact fun hpc => absurd rfl hpc
    | clearIN => exact fun _ => rfl
    | _ => exact fun _ => h fun hpc => by cases hpc

lemma ready_of_write (h : (r.step (.main yes report)).pc = .write) :
    r.pc = .ready ∧ yes = true := by
  obtain ⟨pc, data, state, led, bank⟩ := r
  cases pc with
  | ready => cases yes <;> simp_all [step]
  | testSend => cases state <;> cases h
  | _ => cases yes <;> cases h

lemma write_of_clearIN (h : (r.step (.main yes report)).pc = .clearIN) : r.pc = .write := by
  obtain ⟨pc, data, state, led, bank⟩ := r
  cases pc with
  | write => rfl
  | testSend => cases state <;> cases h
  | _ => cases yes <;> cases h

end Relay

namespace Firmware

/-- What the relay is told in the place of an event. -/
def toRelay (c : Program.Config Device Stmt) : Program.Event Answer Interrupt → List RelayInput
  | .interrupt (.usart1Rx udr1) => [.rx udr1]
  | .interrupt _ => []
  | .main i =>
    match c.todo with
    | [] => [.main true 0]
    | a :: _ =>
      if a.pad ∧ a ≠ .waitUntilReady ∧ a ≠ .writeLoop then [padInput a i c.state] else []

/-- What is asked of the controller: it accepts the configurations that `USB_GEN_vect` writes, and
an IN endpoint that is free stays free until it is written to. -/
def Undisturbed (c : Program.Config Device Stmt) : Program.Event Answer Interrupt → Prop
  | .interrupt e => e.Accepted
  | .main i => ∀ a ∈ c.todo.head?, a = .waitUntilReady ∨ a = .writeLoop → i.yes = true

/-- The write and the release follow at once. -/
def Direct (pc : RelayPc) (todo : List Stmt) : Prop :=
  (pc = .write → ∃ a as, todo = a :: .sendReport :: as) ∧
    (pc = .clearIN → ∃ as, todo = .sendReport :: as)

section Step

variable {signature : ℕ → UInt8} {a : Stmt} {as l : List Stmt} {i : Answer} {d : Device}
  {pc pc' : RelayPc}

lemma direct_of_ne (hwrite : pc ≠ .write) (hclear : pc ≠ .clearIN) (todo : List Stmt) :
    Direct pc todo := ⟨fun h => absurd h hwrite, fun h => absurd h hclear⟩

lemma direct_step (h : Shape (a :: l) pc) (hwait : a ≠ .waitUntilReady)
    (hloop : a ≠ .writeLoop) (hdirect : Direct pc (a :: as))
    (hpc : ((d.relay pc).step (padInput a i d)).pc = pc') :
    Direct pc' ((exec signature a i d).1 ++ as) := by
  constructor
  · rintro rfl
    obtain ⟨rfl, hyes⟩ : pc = .ready ∧ _ := Relay.ready_of_write hpc
    cases h
    have hyes : i.yes = true := hyes
    exact ⟨.waitUntilReady, as, by simp [exec, orNothing, hyes]⟩
  · rintro rfl
    obtain rfl : pc = .write := Relay.write_of_clearIN hpc
    obtain ⟨b, bs, hb⟩ := hdirect.1 rfl
    obtain ⟨rfl, rfl⟩ := List.cons_eq_cons.1 hb
    cases h with
    | waitUntilReady => exact absurd rfl hwait
    | writeLoop => exact absurd rfl hloop
    | writeByte => exact ⟨bs, rfl⟩

/-- No other statement comes between the write and the release. -/
lemma Direct.not_plain (hdirect : Direct pc (a :: as)) (ha : a.pad = false)
    (hshape : Shape (skeleton (a :: as)) pc) : pc ≠ .write ∧ pc ≠ .clearIN := by
  constructor
  · rintro rfl
    obtain ⟨b, bs, hb⟩ := hdirect.1 rfl
    obtain ⟨rfl, rfl⟩ := List.cons_eq_cons.1 hb
    have hcons : skeleton (a :: .sendReport :: bs) = .sendReport :: skeleton bs :=
      List.filter_cons_of_neg (by simp [ha])
    rw [hcons] at hshape
    generalize skeleton bs = l at hshape
    cases hshape
  · rintro rfl
    obtain ⟨bs, hb⟩ := hdirect.2 rfl
    obtain ⟨rfl, -⟩ := List.cons_eq_cons.1 hb
    cases ha

/-- The endpoint is free, and nothing is waited for. -/
lemma wait_step (signature : ℕ → UInt8) (d : Device) (h : Shape (a :: l) pc)
    (ha : a = .waitUntilReady ∨ a = .writeLoop) (hyes : i.yes = true) :
    pc = .write ∧ ∃ w, exec signature a i d = ([w], d) ∧ w.pad = true ∧ Shape (w :: l) .write := by
  rcases ha with rfl | rfl
  · cases h
    refine ⟨rfl, .writeLoop, ?_, rfl, .writeLoop⟩
    rcases exec_waitUntilReady signature i d with h | ⟨hno, -⟩ | ⟨hno, -⟩
    · exact h
    all_goals exact absurd (hno.symm.trans hyes) (by decide)
  · cases h
    refine ⟨rfl, .writeByte, ?_, rfl, .writeByte⟩
    rcases exec_writeLoop signature i d with h | ⟨hno, -⟩
    · exact h
    · exact absurd (hno.symm.trans hyes) (by decide)

/-- Statements outside of `PAD_Task` leave an empty bank empty. -/
lemma relay_exec_of_clean (signature : ℕ → UInt8) (i : Answer) (pc : RelayPc)
    (ha : a.pad = false) (hanswers : Answers a d) (hbank : (d.endpoints PAD_IN).bank = []) :
    (exec signature a i d).2.relay pc = d.relay pc ∧ report a d = [] := by
  have hflow := flow_bank signature i ha hanswers
  rw [hbank] at hflow
  obtain ⟨hreport, hbank'⟩ := List.append_eq_nil_iff.1 (List.sublist_nil.1 hflow)
  refine ⟨?_, hreport⟩
  rw [relay_exec pc ha, hbank', ← hbank]
  rfl

end Step

/-! ### One step -/

/-- `PAD_Task` is where the relay is at `pc`. -/
structure Tracks (c : Program.Config Device Stmt) (pc : RelayPc) : Prop where
  shape : Shape (skeleton c.todo) pc
  clean : (c.state.relay pc).Clean
  direct : Direct pc c.todo

section Follow

variable {signature : ℕ → UInt8} {a : Stmt} {as : List Stmt} {i : Answer} {d : Device}
  {pc : RelayPc} {c c' : Program.Config Device Stmt}

/-- From `c` to `c'` the relay takes the steps `is`, and what leaves the IN endpoint is `out`. -/
def Moves (c : Program.Config Device Stmt) (pc : RelayPc) (is : List RelayInput) (out : List UInt8)
    (c' : Program.Config Device Stmt) : Prop :=
  ∃ pc', Tracks c' pc' ∧ Relay.relay.run (c.state.relay pc) is = some (c'.state.relay pc') ∧
    Relay.relay.log Relay.sent (c.state.relay pc) is = out

lemma Tracks.plain (h : Tracks ⟨a :: as, d⟩ pc) (ha : a.pad = false) (hanswers : Answers a d) :
    Moves ⟨a :: as, d⟩ pc [] (report a d)
      ⟨(exec signature a i d).1 ++ as, (exec signature a i d).2⟩ := by
  obtain ⟨hwrite, hclear⟩ := h.direct.not_plain ha h.shape
  obtain ⟨hrelay, hreport⟩ := relay_exec_of_clean signature i pc ha hanswers
    (h.clean hclear)
  refine ⟨pc, ⟨?_, ?_, direct_of_ne hwrite hclear _⟩, ?_, hreport.symm⟩
  · show Shape (skeleton ((exec signature a i d).1 ++ as)) pc
    rw [skeleton_exec ha]
    exact h.shape
  · rw [hrelay]
    exact h.clean
  · rw [hrelay]
    rfl

lemma Tracks.wait (h : Tracks ⟨a :: as, d⟩ pc) (ha : a = .waitUntilReady ∨ a = .writeLoop)
    (hyes : i.yes = true) :
    Moves ⟨a :: as, d⟩ pc [] (report a d)
      ⟨(exec signature a i d).1 ++ as, (exec signature a i d).2⟩ := by
  have hpad : a.pad = true := by rcases ha with rfl | rfl <;> rfl
  have hreport : report a d = [] := by rcases ha with rfl | rfl <;> rfl
  have hshape : Shape (a :: skeleton as) pc := skeleton_cons hpad as ▸ h.shape
  obtain ⟨rfl, w, hexec, hw, hshape'⟩ := wait_step signature d hshape ha hyes
  obtain ⟨b, bs, hb⟩ := h.direct.1 rfl
  obtain ⟨rfl, rfl⟩ := List.cons_eq_cons.1 hb
  rw [hexec, hreport]
  refine ⟨.write, ⟨?_, h.clean, fun _ => ⟨w, bs, rfl⟩, fun h => by cases h⟩, rfl, rfl⟩
  show Shape (skeleton (w :: .sendReport :: bs)) .write
  rwa [skeleton_cons hw]

lemma Tracks.pad (h : Tracks ⟨a :: as, d⟩ pc) (ha : a.pad = true) (hwait : a ≠ .waitUntilReady)
    (hloop : a ≠ .writeLoop) (hu : a = .writeByte ∨ a = .sendReport → d.uenum = PAD_IN) :
    Moves ⟨a :: as, d⟩ pc [padInput a i d] (report a d)
      ⟨(exec signature a i d).1 ++ as, (exec signature a i d).2⟩ := by
  have hshape : Shape (a :: skeleton as) pc := skeleton_cons ha as ▸ h.shape
  obtain ⟨pc', hshape', hstep, hreport⟩ := pad_step signature i hshape hwait hloop hu
  have hpc : ((d.relay pc).step (padInput a i d)).pc = pc' := (congrArg Relay.pc hstep).symm
  refine ⟨pc', ⟨?_, ?_, direct_step hshape hwait hloop h.direct hpc⟩, ?_, ?_⟩
  · show Shape (skeleton ((exec signature a i d).1 ++ as)) pc'
    rwa [skeleton, List.filter_append]
  · rw [hstep]
    exact h.clean.step _
  · rw [hstep]
    rfl
  · rw [Machine.log_singleton]
    exact hreport.symm

/-- The statements with which `PAD_Task` goes on, where this is one only. -/
lemma Shape.head {l : List Stmt} (h : Shape l pc) :
    (pc = .ready → l.head? = some .ifReadWriteAllowedIN) ∧
      (pc = .clearIN → l.head? = some .sendReport) ∧
      (pc = .clearState → l.head? = some .clearStateSend) := by
  cases h <;> simp

lemma Tracks.reset (h : Tracks ⟨as, d⟩ pc) (hidle : Idle as) (config : ℕ → EndpointConfig) :
    Moves ⟨as, d⟩ pc [] [] ⟨as, interrupt (.reset config) d⟩ := by
  have hclear : pc ≠ .clearIN := by
    intro hpc
    have hmem : .sendReport ∈ skeleton as := List.mem_of_mem_head? (h.shape.head.2.1 hpc)
    cases hidle .sendReport (List.mem_of_mem_filter hmem) rfl
  have hrelay : (interrupt (.reset config) d).relay pc = d.relay pc :=
    congrArg (Relay.mk pc d.dataSend d.stateSend d.ledReport) (h.clean hclear).symm
  exact ⟨pc, ⟨h.shape, hrelay.symm ▸ h.clean, h.direct⟩, congrArg some hrelay.symm, rfl⟩

end Follow

section Run

variable {signature : ℕ → UInt8} {d₀ : Device} {c c' : Program.Config Device Stmt}
  {es : List (Program.Event Answer Interrupt)} {e : Program.Event Answer Interrupt}
  {pc : RelayPc}

/-- What is known of the program after the events so far: its answers go to the control endpoint,
and its reports to the IN endpoint. -/
structure Outlined (signature : ℕ → UInt8) (d₀ : Device) (c : Program.Config Device Stmt) :
    Prop where
  control : (program signature).Wp (fun e _ => e.Accepted) Answers (fun _ => True) c.todo c.state
  pad : Attended signature c
  reached : ∃ es, (program signature).machine.run ⟨[.usbTask, .padTask], d₀⟩ es = some c

lemma outlined_start : Outlined signature d₀ ⟨[.usbTask, .padTask], d₀⟩ :=
  ⟨steady_accepted.wp_body trivial, Or.inl idle_body, [], rfl⟩

lemma Outlined.step (h : Outlined signature d₀ c) (hboot : Booted d₀) (hreset : ResetApart c e)
    (he : Undisturbed c e) (hstep : (program signature).machine.step c e = some c') :
    Outlined signature d₀ c' := by
  obtain ⟨hcontrol, hpad, es, hrun⟩ := h
  have hmeets : Program.Meets (fun (e : Interrupt) (_ : Device) => e.Accepted) c e := by
    cases e with
    | main i => trivial
    | interrupt e => exact he
  refine ⟨?_, hpad.step hboot hrun hreset hstep, es ++ [e], ?_⟩
  · exact hcontrol.step hmeets (fun _ => steady_accepted.wp_body trivial) hstep
  · exact Machine.run_snoc_eq_some.2 ⟨c, hrun, hstep⟩

/-- **A step of the firmware** is a step of the relay, or nothing. -/
theorem Tracks.step (h : Tracks c pc) (hc : Outlined signature d₀ c) (hreset : ResetApart c e)
    (he : Undisturbed c e) (hstep : (program signature).machine.step c e = some c') :
    Moves c pc (toRelay c e) (reports c e) c' := by
  obtain ⟨todo, d⟩ := c
  cases e with
  | interrupt e =>
    obtain rfl := Option.some_inj.1 hstep
    cases e with
    | usart1Rx udr1 => exact ⟨pc, ⟨h.shape, h.clean, h.direct⟩, rfl, rfl⟩
    | usbGen suspi wakeupi cfgok =>
      have hrelay : (interrupt (.usbGen suspi wakeupi cfgok) d).relay pc = d.relay pc :=
        relay_usbGen pc suspi wakeupi cfgok
      exact ⟨pc, ⟨h.shape, hrelay.symm ▸ h.clean, h.direct⟩, congrArg some hrelay.symm, rfl⟩
    | setup q => exact ⟨pc, ⟨h.shape, h.clean, h.direct⟩, rfl, rfl⟩
    | reset config => exact h.reset hreset config
  | main i =>
    cases todo with
    | nil =>
      obtain rfl := Option.some_inj.1 hstep
      obtain ⟨hshape, hclean, -⟩ := h
      have hnil : Shape [] pc := hshape
      cases hnil
      refine ⟨.padTask, ⟨.padTask, hclean.step (.main true 0), ?_⟩, rfl, rfl⟩
      exact direct_of_ne (fun h => by cases h) (fun h => by cases h) _
    | cons a as =>
      obtain rfl := Option.some_inj.1 hstep
      by_cases ha : a.pad ∧ a ≠ .waitUntilReady ∧ a ≠ .writeLoop
      · have hrelay : toRelay ⟨a :: as, d⟩ (.main i) = [padInput a i d] := if_pos ha
        have hu : a = .writeByte ∨ a = .sendReport → d.uenum = PAD_IN := by
          rintro (rfl | rfl)
          · exact (hc.pad.works PAD_IN rfl).1
          · exact (hc.pad.works PAD_IN rfl).1
        rw [hrelay]
        exact h.pad ha.1 ha.2.1 ha.2.2 hu
      · have hrelay : toRelay ⟨a :: as, d⟩ (.main i) = [] := if_neg ha
        rw [hrelay]
        cases hpad : a.pad with
        | false => exact h.plain hpad hc.control.guard
        | true =>
          have hwait : a = .waitUntilReady ∨ a = .writeLoop := by
            by_contra hno
            exact ha ⟨hpad, not_or.1 hno⟩
          exact h.wait hwait (he a rfl hwait)

lemma received_toRelay (r : Relay) (c : Program.Config Device Stmt)
    (e : Program.Event Answer Interrupt) :
    Relay.relay.log (fun _ => Relay.received) r (toRelay c e) = received c e := by
  obtain ⟨todo, d⟩ := c
  cases e with
  | interrupt e => cases e <;> rfl
  | main i =>
    cases todo with
    | nil => rfl
    | cons a as =>
      simp only [toRelay]
      split_ifs <;> rfl

/-! ### Whole runs -/

/-- The relay is in the state of the firmware. -/
def Follows (signature : ℕ → UInt8) (d₀ : Device) (c : Program.Config Device Stmt) (r : Relay) :
    Prop :=
  ∃ pc, r = c.state.relay pc ∧ Tracks c pc ∧ Outlined signature d₀ c

/-- The relay starts before the call of `USB_USBTask`, which it sees as one step. -/
lemma initial_relay (hboot : Booted d₀) (hdata : d₀.dataSend = 0) :
    (Relay.initial d₀.ledReport).step (.main true 0) = d₀.relay .padTask := by
  simp [Relay.initial, Relay.step, Device.relay, hboot.stateSend, hboot.bank, hdata]

lemma follows_start (hboot : Booted d₀) (hdata : d₀.dataSend = 0) : Follows signature d₀
    ⟨[.usbTask, .padTask], d₀⟩ ((Relay.initial d₀.ledReport).step (.main true 0)) := by
  rw [initial_relay hboot hdata]
  refine ⟨.padTask, rfl, ⟨.padTask, fun _ => hboot.bank PAD_IN, ?_⟩, outlined_start⟩
  exact direct_of_ne (fun h => by cases h) (fun h => by cases h) _

/-- **The simulation.** -/
theorem Follows.step {r : Relay} (h : Follows signature d₀ c r) (hboot : Booted d₀)
    (he : ResetApart c e ∧ Undisturbed c e)
    (hstep : (program signature).machine.step c e = some c') :
    ∃ r', Relay.relay.run r (toRelay c e) = some r' ∧ Follows signature d₀ c' r' := by
  obtain ⟨pc, rfl, htracks, hc⟩ := h
  obtain ⟨pc', htracks', hrun, -⟩ := htracks.step hc he.1 he.2 hstep
  exact ⟨_, hrun, pc', rfl, htracks', hc.step hboot he.1 he.2 hstep⟩

section Observed

variable {β : Type*} {out : Program.Config Device Stmt → Program.Event Answer Interrupt → List β}
  {out' : Relay → RelayInput → List β}

lemma run_follows (hboot : Booted d₀) (hdata : d₀.dataSend = 0)
    (hC : (program signature).machine.Along (fun c e => ResetApart c e ∧ Undisturbed c e)
      ⟨[.usbTask, .padTask], d₀⟩ es)
    (hrun : (program signature).machine.run ⟨[.usbTask, .padTask], d₀⟩ es = some c) :
    ∃ pc, Tracks c pc ∧ Relay.relay.run (Relay.initial d₀.ledReport)
      (.main true 0 :: (program signature).machine.log toRelay ⟨[.usbTask, .padTask], d₀⟩ es) =
        some (c.state.relay pc) := by
  obtain ⟨r, hr, pc, rfl, htracks, -⟩ := Machine.run_sim_along
    (fun c r e c' h he hstep => Follows.step h hboot he hstep) (follows_start hboot hdata) hC hrun
  exact ⟨pc, htracks, hr⟩

/-- An observer of the relay writes down what an observer of the firmware does, if it is so for
every step. -/
lemma log_follows (hnil : out' (Relay.initial d₀.ledReport) (.main true 0) = [])
    (same : ∀ c pc e c', Tracks c pc → Outlined signature d₀ c → ResetApart c e ∧ Undisturbed c e →
      (program signature).machine.step c e = some c' →
      Relay.relay.log out' (c.state.relay pc) (toRelay c e) = out c e)
    (hboot : Booted d₀) (hdata : d₀.dataSend = 0)
    (hC : (program signature).machine.Along (fun c e => ResetApart c e ∧ Undisturbed c e)
      ⟨[.usbTask, .padTask], d₀⟩ es)
    (hrun : (program signature).machine.run ⟨[.usbTask, .padTask], d₀⟩ es = some c) :
    Relay.relay.log out' (Relay.initial d₀.ledReport)
      (.main true 0 :: (program signature).machine.log toRelay ⟨[.usbTask, .padTask], d₀⟩ es) =
        (program signature).machine.log out ⟨[.usbTask, .padTask], d₀⟩ es := by
  have hlog : Relay.relay.log out' ((Relay.initial d₀.ledReport).step (.main true 0))
      ((program signature).machine.log toRelay ⟨[.usbTask, .padTask], d₀⟩ es) =
        (program signature).machine.log out ⟨[.usbTask, .padTask], d₀⟩ es := Machine.log_sim_along
    (fun c r e c' h he hstep => Follows.step h hboot he hstep)
    (fun c r e c' ⟨pc, hr, htracks, hc⟩ he hstep => hr ▸ same c pc e c' htracks hc he hstep)
    (follows_start hboot hdata) hC hrun
  rw [← hlog]
  exact congrArg (· ++ _) hnil

end Observed

/-- The bytes of the serial line are received, and written to the IN endpoint. -/
def marks (c : Program.Config Device Stmt) : Program.Event Answer Interrupt → List Relay.Mark
  | .interrupt (.usart1Rx udr1) => [.received udr1]
  | .interrupt _ => []
  | .main _ => if c.todo.head? = some .writeByte ∧ c.state.uenum = PAD_IN
      then [.written c.state.dataSend] else []

/-- The IN endpoint is free when `SendNextReport` asks, and no byte is received between the write
and the clearing of `state_send`. -/
def Prompt (c : Program.Config Device Stmt) : Program.Event Answer Interrupt → Prop
  | .interrupt (.usart1Rx _) =>
    ∀ a ∈ (skeleton c.todo).head?, a ≠ .sendReport ∧ a ≠ .clearStateSend
  | .interrupt _ => True
  | .main i => c.todo.head? = some .ifReadWriteAllowedIN → i.yes = true

lemma Shape.write_iff {a : Stmt} {l : List Stmt} (h : Shape (a :: l) pc)
    (hwait : a ≠ .waitUntilReady) (hloop : a ≠ .writeLoop) : pc = .write ↔ a = .writeByte := by
  cases h <;> simp_all

lemma Tracks.marks (h : Tracks c pc) (hpad : Attended signature c)
    (e : Program.Event Answer Interrupt) :
    Relay.relay.log Relay.marks (c.state.relay pc) (toRelay c e) = marks c e := by
  obtain ⟨todo, d⟩ := c
  cases e with
  | interrupt e => cases e <;> rfl
  | main i =>
    cases todo with
    | nil =>
      have hnil : Shape [] pc := h.shape
      cases hnil
      rfl
    | cons a as =>
      by_cases ha : a.pad ∧ a ≠ .waitUntilReady ∧ a ≠ .writeLoop
      · have hrelay : toRelay ⟨a :: as, d⟩ (.main i) = [padInput a i d] := if_pos ha
        have hshape : Shape (a :: skeleton as) pc := skeleton_cons ha.1 as ▸ h.shape
        rw [hrelay, Machine.log_singleton]
        refine if_congr ?_ rfl rfl
        rw [List.head?_cons, Option.some_inj, ← hshape.write_iff ha.2.1 ha.2.2]
        refine (and_iff_left_of_imp fun hpc => ?_).symm
        obtain rfl := (hshape.write_iff ha.2.1 ha.2.2).1 hpc
        exact (hpad.works PAD_IN rfl).1
      · have hrelay : toRelay ⟨a :: as, d⟩ (.main i) = [] := if_neg ha
        have hne : a ≠ .writeByte := by
          rintro rfl
          exact ha (by decide)
        rw [hrelay]
        exact (if_neg fun h => hne (Option.some_inj.1 h.1)).symm

lemma Tracks.orderly (h : Tracks c pc) (he : Prompt c e) :
    Relay.relay.Along Relay.Orderly (c.state.relay pc) (toRelay c e) := by
  obtain ⟨todo, d⟩ := c
  have hnil : ∀ r : Relay, Relay.relay.Along Relay.Orderly r [] := fun r x hx => by cases hx
  cases e with
  | interrupt e =>
    cases e with
    | usart1Rx udr1 =>
      refine Machine.along_singleton.2 ⟨fun hpc => ?_, fun hpc => ?_⟩
      · exact (he .sendReport (h.shape.head.2.1 hpc)).1 rfl
      · exact (he .clearStateSend (h.shape.head.2.2 hpc)).2 rfl
    | usbGen suspi wakeupi cfgok => exact hnil _
    | setup q => exact hnil _
    | reset config => exact hnil _
  | main i =>
    cases todo with
    | nil =>
      have hnil : Shape [] pc := h.shape
      cases hnil
      exact Machine.along_singleton.2 fun hpc => by cases hpc
    | cons a as =>
      simp only [toRelay]
      split_ifs with ha
      · refine Machine.along_singleton.2 fun hpc => ?_
        have hshape : Shape (a :: skeleton as) pc := skeleton_cons ha.1 as ▸ h.shape
        obtain rfl : a = .ifReadWriteAllowedIN := Option.some_inj.1 (hshape.head.1 hpc)
        exact he rfl
      · exact hnil _

/-- **The newest byte is written.** What is known of the relay holds of the firmware: if moreover
the IN endpoint is free whenever it is asked, and no byte is received between a write and the
clearing of `state_send`, then the byte received last has been written to the IN endpoint whenever
`state_send` is down. -/
theorem newest_byte_written (hboot : Booted d₀) (hdata : d₀.dataSend = 0)
    (hC : (program signature).machine.Along (fun c e => ResetApart c e ∧ Undisturbed c e)
      ⟨[.usbTask, .padTask], d₀⟩ es)
    (hprompt : (program signature).machine.Along Prompt ⟨[.usbTask, .padTask], d₀⟩ es)
    (hrun : (program signature).machine.run ⟨[.usbTask, .padTask], d₀⟩ es = some c)
    (hdown : c.state.stateSend = false)
    (hreceived : ∃ b, .received b ∈
      (program signature).machine.log marks ⟨[.usbTask, .padTask], d₀⟩ es) :
    Relay.NewestWritten ((program signature).machine.log marks ⟨[.usbTask, .padTask], d₀⟩ es) := by
  have horderly : Relay.relay.Along Relay.Orderly (Relay.initial d₀.ledReport)
      (.main true 0 ::
        (program signature).machine.log toRelay ⟨[.usbTask, .padTask], d₀⟩ es) := by
    have hfirst : Relay.relay.run (Relay.initial d₀.ledReport) [.main true 0] =
      some ((Relay.initial d₀.ledReport).step (.main true 0)) := rfl
    refine (Machine.along_append hfirst).2 ⟨?_, ?_⟩
    · exact Machine.along_singleton.2 fun hpc => by cases hpc
    · refine Machine.along_sim_along
        (C := fun c e => (ResetApart c e ∧ Undisturbed c e) ∧ Prompt c e)
        (fun c r e c' h he hstep => Follows.step h hboot he.1 hstep) ?_ (follows_start hboot hdata)
        (fun x hx => ⟨hC x hx, hprompt x hx⟩) hrun
      rintro c r e c' ⟨pc, rfl, htracks, -⟩ he -
      exact htracks.orderly he.2
  have hmarks : Relay.relay.log Relay.marks (Relay.initial d₀.ledReport) _ = _ := log_follows rfl
    (fun c pc e c' htracks hc _ _ => htracks.marks hc.pad e) hboot hdata hC hrun
  obtain ⟨pc, -, hrelay⟩ := run_follows hboot hdata hC hrun
  have hsafe := (Relay.run_kept horderly hrelay).newestSafe
  rw [hmarks] at hsafe
  exact hsafe hdown hreceived

/-- The byte is written before `state_send` is cleared. -/
example : ((program fun _ => 0).machine.run ⟨[.usbTask, .padTask], bootDevice⟩
      (enumeration ++ reporting)).map (fun c => c.state.stateSend) = some false ∧
    (program fun _ => 0).machine.log marks ⟨[.usbTask, .padTask], bootDevice⟩
      (enumeration ++ reporting) = [.received 48, .written 48] := by decide +kernel

end Run

end Firmware

end UsbJoystick.Pad
