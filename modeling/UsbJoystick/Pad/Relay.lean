import UsbJoystick.Lib.Conduit

/-!
The ATmega16u2 of the joystick: `AT16u2/PolytechLille/PAD/pad.c`.

The receive interrupt puts the next byte of the serial line into the mailbox `data_send` and
raises `state_send`. The main loop runs `USB_USBTask` and `PAD_Task`; when the device is
configured, `PAD_Task` runs `SendNextReport` and `ReceiveNextReport`. `SendNextReport` tests
`state_send`, asks whether the IN endpoint is ready, writes the mailbox to it, releases the bank
and clears `state_send`, in separate steps between any two of which the interrupt may come.

* `Relay.flow`: bytes can be lost on the way, but nothing is invented, duplicated or reordered.
* `state_send = 0` stands after the test of the endpoint and after the write. So the newest byte
  can be dropped: when the endpoint is not ready, and when the interrupt comes between the write
  and the clearing. These are the only ways (`run_kept`).
-/

namespace UsbJoystick.Pad

open UsbJoystick.Lib

inductive RelayPc where
  | usbTask -- `USB_USBTask()`
  | padTask -- the test of `USB_DeviceState` in `PAD_Task`
  /-- `if(state_send)` in `SendNextReport`, with the selection of the IN endpoint. -/
  | testSend
  | ready -- `Endpoint_IsReadWriteAllowed()` on the IN endpoint
  | write -- `Endpoint_Write_Stream_LE(&data_send, 1, NULL)`
  | clearIN -- `Endpoint_ClearIN()`
  | clearState -- `state_send = 0`
  | outReceived -- `Endpoint_IsOUTReceived()` in `ReceiveNextReport`
  | outReady -- `Endpoint_IsReadWriteAllowed()` on the OUT endpoint
  | outRead -- `Endpoint_Read_8()`
  | outSend -- `Serial_SendByte(LEDReport)`, which waits for the transmitter
  | clearOUT -- `Endpoint_ClearOUT()`
  deriving DecidableEq, Repr

/-- The program of the ATmega16u2, with the bank of the IN endpoint. -/
structure Relay where
  pc : RelayPc
  dataSend : UInt8
  stateSend : Bool
  ledReport : UInt8
  /-- What has been written to the IN endpoint since the last `Endpoint_ClearIN`. -/
  bank : List UInt8
  deriving DecidableEq, Repr

inductive RelayInput where
  | rx (udr : UInt8) -- the receive interrupt, with the byte in `UDR1`
  /-- A step of the main loop: the answer of the hardware to what it asks, and the byte at the
  OUT endpoint. -/
  | main (yes : Bool) (report : UInt8)
  deriving DecidableEq, Repr

namespace Relay

def step (r : Relay) : RelayInput → Relay
  | .rx udr => { r with dataSend := udr, stateSend := true }
  | .main yes report =>
    match r.pc with
    | .usbTask => { r with pc := .padTask }
    | .padTask => { r with pc := if yes then .testSend else .usbTask }
    | .testSend => { r with pc := if r.stateSend then .ready else .outReceived }
    | .ready => { r with pc := if yes then .write else .clearState }
    | .write => { r with pc := .clearIN, bank := r.bank ++ [r.dataSend] }
    | .clearIN => { r with pc := .clearState, bank := [] }
    | .clearState => { r with pc := .outReceived, stateSend := false }
    | .outReceived => { r with pc := if yes then .outReady else .usbTask }
    | .outReady => { r with pc := if yes then .outRead else .clearOUT }
    | .outRead => { r with pc := .outSend, ledReport := report }
    | .outSend => { r with pc := if yes then .clearOUT else .outSend }
    | .clearOUT => { r with pc := .usbTask }

def sent (r : Relay) : RelayInput → List UInt8
  | .main _ _ => if r.pc = .clearIN then r.bank else []
  | .rx _ => []

def received : RelayInput → List UInt8
  | .rx udr => [udr]
  | .main _ _ => []

/-- After `SetupHardware`; the local `LEDReport` has no value yet. -/
def initial (ledReport : UInt8) : Relay := ⟨.usbTask, 0, false, ledReport, []⟩

/-! ### One step -/

/-- What is in the mailbox and may still be written. From the write to the clearing there is
nothing, since `state_send` is going to be cleared. -/
def pending (r : Relay) : List UInt8 :=
  match r.pc with
  | .ready | .write => [r.dataSend]
  | .clearIN | .clearState => []
  | _ => if r.stateSend then [r.dataSend] else []

def held (r : Relay) : List UInt8 := r.bank ++ r.pending

lemma pending_rx (r : Relay) (udr : UInt8) : (r.step (.rx udr)).pending.Sublist [udr] := by
  obtain ⟨pc, data, state, led, bank⟩ := r
  cases pc <;> first | exact List.Sublist.refl _ | exact List.nil_sublist _

/-- **The program invents, duplicates and reorders nothing.** -/
theorem flow (r : Relay) (i : RelayInput) :
    Flow r.held (received i) (r.sent i) (r.step i).held := by
  cases i with
  | rx udr =>
    -- the bank stays, and the new byte replaces the one in the mailbox
    have hbox : Flow r.pending [udr] [] (r.step (.rx udr)).pending :=
      Flow.replace (pending_rx r udr)
    exact hbox.series Flow.idle
  | main yes report =>
    obtain ⟨pc, data, state, led, bank⟩ := r
    cases pc with
    | testSend => cases state <;> exact Flow.idle
    | ready =>
      cases yes
      · -- the endpoint is not ready: the byte in the mailbox is going to be dropped
        exact (Flow.lose (List.nil_sublist [data])).series Flow.idle
      · exact Flow.idle
    | write => exact Flow.dequeue.series Flow.enqueue
    | clearIN => exact Flow.idle.series Flow.flush
    | clearState => exact Flow.idle
    | _ => cases yes <;> exact Flow.idle

/-! ### The newest byte -/

/-- What happens to the bytes of the serial line, as an observer notes it down. -/
inductive Mark where
  | received (b : UInt8)
  | written (b : UInt8)
  deriving DecidableEq, Repr

/-- The marks of a step. A write to a ready endpoint queues the byte in the mailbox. -/
def marks (r : Relay) : RelayInput → List Mark
  | .rx udr => [.received udr]
  | .main _ _ => if r.pc = .write then [.written r.dataSend] else []

/-- The byte received last has been written since. -/
def NewestWritten (l : List Mark) : Prop :=
  ∃ before b since, l = before ++ .received b :: since ∧ (∀ b', Mark.received b' ∉ since) ∧
    Mark.written b ∈ since

lemma newestWritten_write {l : List Mark} {b : UInt8} (h : l.getLast? = some (.received b)) :
    NewestWritten (l ++ [.written b]) := by
  refine ⟨l.dropLast, b, [.written b], ?_, by simp, by simp⟩
  conv_lhs => rw [← List.dropLast_append_getLast? _ h]
  simp

/-- When `state_send` is down, the byte received last has been written, if there is one. -/
def NewestSafe (l : List Mark) (r : Relay) : Prop :=
  r.stateSend = false → (∃ b, Mark.received b ∈ l) → NewestWritten l

/-- With `state_send` down, a byte that has just been received is dropped. -/
lemma not_newestSafe {l : List Mark} {r : Relay} {b : UInt8} (hdown : r.stateSend = false)
    (h : l.getLast? = some (.received b)) : ¬ NewestSafe l r := by
  intro hsafe
  obtain ⟨before, b', since, rfl, hsince, hwritten⟩ := hsafe hdown ⟨b, List.mem_of_getLast? h⟩
  rw [List.getLast?_append_of_ne_nil _ (List.cons_ne_nil _ _)] at h
  rcases since with _ | ⟨m, since⟩
  · cases hwritten
  · rw [List.getLast?_cons_cons] at h
    exact hsince b (List.mem_of_getLast? h)

def relay : Machine Relay RelayInput where
  step r i := some (r.step i)

/-- The endpoint is ready whenever it is asked, and the interrupt does not come between the
write and the clearing of `state_send`. -/
def Orderly (r : Relay) : RelayInput → Prop
  | .rx _ => r.pc ≠ .clearIN ∧ r.pc ≠ .clearState
  | .main yes _ => r.pc = .ready → yes = true

instance (r : Relay) (i : RelayInput) : Decidable (r.Orderly i) := by
  cases i <;> unfold Orderly <;> infer_instance

/-- What holds along orderly steps: up to the write, if `state_send` is set, nothing has happened
since the byte in the mailbox was received; from the write on, it has been written. -/
def Kept (l : List Mark) (r : Relay) : Prop :=
  match r.pc with
  | .ready | .write => r.stateSend = true ∧ l.getLast? = some (.received r.dataSend)
  | .clearIN | .clearState => NewestWritten l
  | _ => if r.stateSend then l.getLast? = some (.received r.dataSend)
    else (∃ b, Mark.received b ∈ l) → NewestWritten l

/-- **An orderly step keeps the newest byte.** -/
theorem Kept.step {l : List Mark} {r : Relay} (h : Kept l r) {i : RelayInput} (hi : r.Orderly i) :
    Kept (l ++ r.marks i) (r.step i) := by
  obtain ⟨pc, data, state, led, bank⟩ := r
  cases i with
  | rx udr =>
    have hnew : (l ++ [Mark.received udr]).getLast? = some (.received udr) := List.getLast?_concat
    cases pc with
    | ready | write => exact ⟨rfl, hnew⟩
    | clearIN => exact absurd rfl hi.1
    | clearState => exact absurd rfl hi.2
    | _ => exact hnew
  | main yes report =>
    have quiet : ∀ {r' : Relay}, pc ≠ .write → Kept l r' →
        Kept (l ++ marks ⟨pc, data, state, led, bank⟩ (.main yes report)) r' := by
      intro r' hpc hkept
      rwa [marks, if_neg hpc, List.append_nil]
    cases pc with
    | write =>
      rw [marks, if_pos rfl]
      exact newestWritten_write h.2
    | testSend =>
      refine quiet (by decide) ?_
      cases state
      · exact h
      · exact ⟨rfl, h⟩
    | ready =>
      obtain rfl : yes = true := hi rfl
      exact quiet (by decide) h
    | clearIN => exact quiet (by decide) h
    | clearState => exact quiet (by decide) fun _ => h
    | _ =>
      refine quiet (by decide) ?_
      cases yes <;> exact h

/-- **In an orderly run the newest byte is in the mailbox or has been written.** -/
theorem run_kept {led : UInt8} {is : List RelayInput} {r : Relay}
    (hC : relay.Along Orderly (initial led) is) (hrun : relay.run (initial led) is = some r) :
    Kept (relay.log marks (initial led) is) r := by
  refine Machine.along_induction
    (P := fun is r => Kept (relay.log marks (initial led) is) r) ?_ ?_ hC hrun
  · rintro ⟨b, hb⟩
    cases hb
  · intro is r i r' hrun hkept hi hstep
    obtain rfl : r.step i = r' := Option.some_inj.1 hstep
    rw [Machine.log_snoc marks hrun]
    exact hkept.step hi

lemma Kept.newestSafe {l : List Mark} {r : Relay} (h : Kept l r) : NewestSafe l r := by
  obtain ⟨pc, data, state, led, bank⟩ := r
  intro hdown hreceived
  obtain rfl : state = false := hdown
  cases pc with
  | ready | write => cases h.1
  | clearIN | clearState => exact h
  | _ => exact h hreceived

section Run

variable {led : UInt8} {is : List RelayInput} {r : Relay}

/-- **The newest byte is safe in orderly runs, and in no others.** In a run in which the
endpoint is ready whenever it is asked and no interrupt comes between a write and the clearing of
`state_send`, the byte received last has been written whenever `state_send` is down. After the
first input that is not of this kind, the byte received last is dropped by the time the loop has
finished the pass. -/
theorem newest_safe_iff_orderly (hC : relay.Along Orderly (initial led) is)
    (hrun : relay.run (initial led) is = some r) :
    NewestSafe (relay.log marks (initial led) is) r ∧
    ∀ i, ¬ r.Orderly i → ∃ n r',
      relay.run (initial led) (is ++ i :: List.replicate n (.main true 0)) = some r' ∧
        ¬ NewestSafe (relay.log marks (initial led) (is ++ i :: List.replicate n (.main true 0)))
          r' := by
  have hkept := run_kept hC hrun
  refine ⟨hkept.newestSafe, ?_⟩
  obtain ⟨pc, data, state, led', bank⟩ := r
  intro i hi
  -- it is enough to look at the rest of the pass
  suffices h : ∃ n r', relay.run ⟨pc, data, state, led', bank⟩
      (i :: List.replicate n (.main true 0)) = some r' ∧
      ¬ NewestSafe (relay.log marks (initial led) is ++ relay.log marks
        ⟨pc, data, state, led', bank⟩ (i :: List.replicate n (.main true 0))) r' by
    obtain ⟨n, r', hrun', hnot⟩ := h
    refine ⟨n, r', ?_, by rwa [Machine.log_append marks hrun]⟩
    rw [Machine.run_append, hrun]
    exact hrun'
  cases i with
  | rx udr =>
    by_cases hpc : pc = .clearIN
    · subst hpc
      exact ⟨2, _, rfl, not_newestSafe rfl List.getLast?_concat⟩
    · obtain rfl : pc = .clearState := by
        by_contra hpc'
        exact hi ⟨hpc, hpc'⟩
      exact ⟨1, _, rfl, not_newestSafe rfl List.getLast?_concat⟩
  | main yes report =>
    obtain ⟨rfl, hyes⟩ : pc = .ready ∧ ¬ yes = true := Classical.not_imp.1 hi
    obtain rfl : yes = false := by simpa using hyes
    refine ⟨1, _, rfl, not_newestSafe (b := data) rfl ?_⟩
    exact (congrArg List.getLast? (List.append_nil _)).trans hkept.2

theorem newest_safe_one_byte :
    ∃ r, relay.run (initial 0) (.rx 0x21 :: List.replicate 7 (.main true 0)) = some r ∧
      r.stateSend = false ∧ NewestWritten (relay.log marks (initial 0)
        (.rx 0x21 :: List.replicate 7 (.main true 0))) := by
  have hC : relay.Along Orderly (initial 0) (.rx 0x21 :: List.replicate 7 (.main true 0)) := by
    unfold Machine.Along
    decide +kernel
  refine ⟨_, rfl, rfl, (newest_safe_iff_orderly hC rfl).1 rfl ⟨0x21, ?_⟩⟩
  decide +kernel

/-- **The newest byte can be dropped**: when the endpoint is not ready, and when the interrupt
comes between the write and the clearing of `state_send`. -/
theorem newest_dropped :
    (∃ r, relay.run (initial 0) [.rx 0x21, .main true 0, .main true 0, .main true 0,
        .main false 0, .main true 0] = some r ∧
      ¬ NewestSafe (relay.log marks (initial 0) [.rx 0x21, .main true 0, .main true 0,
        .main true 0, .main false 0, .main true 0]) r) ∧
    ∃ r, relay.run (initial 0) (.rx 0x21 :: List.replicate 5 (.main true 0) ++
        [.rx 0x22, .main true 0, .main true 0]) = some r ∧
      ¬ NewestSafe (relay.log marks (initial 0) (.rx 0x21 :: List.replicate 5 (.main true 0) ++
        [.rx 0x22, .main true 0, .main true 0])) r := by
  refine ⟨⟨_, rfl, not_newestSafe rfl (b := 0x21) ?_⟩, _, rfl, not_newestSafe rfl (b := 0x22) ?_⟩
  · decide +kernel
  · decide +kernel

end Run

end Relay

end UsbJoystick.Pad
