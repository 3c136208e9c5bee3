import UsbJoystick.Pad.Reports

/-!
What the firmware makes of the bytes of the serial line.

What leaves the IN endpoint has come in on the serial line, in order and once
(`reports_were_received`). Bytes may be lost; with the race described in `Pad.Reports` they may also
end up at another endpoint.

Most of the statements of the program have nothing to do with the mailbox. The ones that do are
those of `PAD_Task`, and what is left of them to be executed (`skeleton`) is always one of a few
lists (`Phase`), which says where the relay of `Pad.Relay` would be. A statement of `PAD_Task` that
finds its endpoint selected is then a step of the relay (`pad_step`), and the theorem about the
relay can be used; the other ones, and the race, only lose bytes.

Apart from `PAD_Task`, only the answers to two requests are written to the selected endpoint. That
it is the control endpoint is a second outline of the program (`Steady`). It needs that
`USB_GEN_vect` leaves the control endpoint selected, which it does if the controller accepts the
configurations it writes.
-/

namespace UsbJoystick.Pad.Firmware

open Lib Usb

/-! ### What the statements lead to -/

/-- The statements that `PAD_Task` consists of, apart from the selections of endpoints. -/
def Stmt.pad : Stmt → Bool
  | .padTask | .ifStateSend | .ifReadWriteAllowedIN | .waitUntilReady | .writeLoop | .writeByte
  | .sendReport | .clearStateSend | .ifOUTReceived | .ifReadWriteAllowedOUT | .readReport
  | .releaseReport | .serialSendByte => true
  | _ => false

/-- The statements that lead to an answer of the device, apart from descriptors. -/
def Stmt.control : Stmt → Bool
  | .usbTask | .ifSETUPReceived | .readHeader | .switchRequest | .writeConfigurationNumber
  | .writeStatus => true
  | _ => false

def Stmt.plain (a : Stmt) : Prop := a.pad = false ∧ a.control = false

section Stmts

variable (signature : ℕ → UInt8) {a b : Stmt} {i : Answer} {d : Device}

lemma plain_exec (ha : a.plain) : ∀ b ∈ (exec signature a i d).1, b.plain := by
  obtain ⟨hpad, hcontrol⟩ := ha
  cases a with
  | padTask | ifStateSend | ifReadWriteAllowedIN | waitUntilReady | writeLoop | ifOUTReceived
  | ifReadWriteAllowedOUT | serialSendByte => cases hpad
  | usbTask | ifSETUPReceived | readHeader | switchRequest => cases hcontrol
  | ifUnhandled | clearStatusStage | waitINReady | ifConfigurationNumber | ifEnabled
  | writeControlStream | configureFrom | readConfig | ifConfigured =>
    simp only [exec, orNothing, await]
    split_ifs <;> simp [Stmt.plain, Stmt.pad, Stmt.control]
  | ifAddressSet => exact List.forall_mem_singleton.2 ⟨rfl, rfl⟩
  | _ => exact List.forall_mem_nil _

lemma plain_clearSetFeature (r : RequestHeader) : ∀ b ∈ clearSetFeature r, b.plain := by
  unfold clearSetFeature
  simp only
  split_ifs <;> simp [Stmt.plain, Stmt.pad, Stmt.control]

lemma plain_setAddress (r : RequestHeader) : ∀ b ∈ setAddress r, b.plain := by
  unfold setAddress
  simp only
  split_ifs <;> simp [Stmt.plain, Stmt.pad, Stmt.control]

lemma plain_getDescriptor (r : RequestHeader) :
    ∀ b ∈ getDescriptorStmts signature r, b.plain := by
  unfold getDescriptorStmts
  split <;> simp [Stmt.plain, Stmt.pad, Stmt.control]

lemma plain_setConfiguration (r : RequestHeader) : ∀ b ∈ setConfiguration r, b.plain := by
  unfold setConfiguration eventConfigurationChanged configureEndpoint
  split_ifs <;> simp [Stmt.plain, Stmt.pad, Stmt.control]

lemma pad_of_tame (h : a.tame = true) : a.pad = false := by
  cases a <;> first | rfl | cases h

lemma pad_handler (r : RequestHeader) : ∀ b ∈ handler signature r, b.pad = false := by
  intro b h
  unfold handler at h
  simp only at h
  split_ifs at h
  · exact pad_of_tame (tame_getStatus r b h)
  · exact (plain_clearSetFeature r b h).1
  · exact (plain_setAddress r b h).1
  · exact (plain_getDescriptor signature r b h).1
  · revert b
    simp [getConfiguration, Stmt.pad]
  · exact (plain_setConfiguration r b h).1
  · cases h

lemma control_of_pad (h : a.pad = true) : a.control = false := by
  cases a <;> first | rfl | cases h

/-- `PAD_Task` is left for `USB_USBTask` only. -/
lemma control_exec (ha : a.pad = true) :
    ∀ b ∈ (exec signature a i d).1, b.control = true → b = .usbTask := by
  cases a with
  | padTask | ifStateSend | ifReadWriteAllowedIN | waitUntilReady | writeLoop | ifOUTReceived
  | ifReadWriteAllowedOUT | serialSendByte =>
    simp only [exec, orNothing, await]
    split_ifs <;> simp [Stmt.control]
  | writeByte | sendReport | clearStateSend | readReport | releaseReport =>
    exact List.forall_mem_nil _
  | _ => cases ha

/-- `USB_USBTask` is not left for `PAD_Task`. -/
lemma pad_exec (ha : a.pad = false) : ∀ b ∈ (exec signature a i d).1, b.pad = false := by
  cases hcontrol : a.control with
  | false => exact fun b hb => (plain_exec signature ⟨ha, hcontrol⟩ b hb).1
  | true =>
    cases a with
    | usbTask | ifSETUPReceived =>
      simp only [exec, orNothing]
      split_ifs <;> simp [Stmt.pad]
    | readHeader => simp [exec, Stmt.pad]
    | switchRequest => exact fun b hb => pad_handler signature _ b (mem_orNothing hb)
    | writeConfigurationNumber | writeStatus => exact List.forall_mem_nil _
    | _ => cases hcontrol

end Stmts

/-! ### Answers go to the control endpoint -/

def Stmt.answers : Stmt → Bool
  | .writeConfigurationNumber | .writeStatus => true
  | _ => false

/-- An answer is written to the control endpoint. -/
def Answers (a : Stmt) (d : Device) : Prop := a.answers = true → d.uenum = 0

/-- Interrupts that meet `R` keep `E` and leave the control endpoint selected. -/
structure Steady (R : Interrupt → Device → Prop) (E : Device → Prop) : Prop where
  step : ∀ signature a i d, E d → E (exec signature a i d).2
  env : ∀ e d, R e d → E d → E (interrupt e d)
  uenum : ∀ e d, R e d → E d → d.uenum = 0 → (interrupt e d).uenum = 0

section Answers

variable {signature : ℕ → UInt8} {R : Interrupt → Device → Prop} {E : Device → Prop} {a : Stmt}
  {as : List Stmt} {d : Device}

lemma control_of_answers (h : a.answers = true) : a.control = true := by
  cases a <;> first | rfl | cases h

lemma answers_of_not_control (h : a.control = false) : Answers a d := fun ha =>
  absurd (control_of_answers ha) (by simp [h])

lemma Steady.wp_plain (hR : Steady R E) (has : ∀ a ∈ as, a.plain) (hd : E d) :
    (program signature).Wp R Answers E as d := by
  refine Program.wp_of_class Stmt.plain hR.env ?_ ?_ has hd
  · exact fun a d ha _ => answers_of_not_control ha.2
  · exact fun a i d ha hd => ⟨plain_exec signature ha, hR.step signature a i d hd⟩

/-- The statements of an answer, from the release of the request on. -/
def Stmt.replies : Stmt → Bool
  | .clearSETUP | .statusOfDevice | .writeConfigurationNumber | .writeStatus | .clearIN | .clearOUT
  | .clearStatusStage => true
  | _ => false

lemma replies_exec (signature : ℕ → UInt8) (i : Answer) (d : Device) (ha : a.replies = true) :
    (∀ b ∈ (exec signature a i d).1, b.replies = true) ∧
      (exec signature a i d).2.uenum = d.uenum := by
  cases a with
  | clearSETUP =>
    refine ⟨List.forall_mem_nil _, ?_⟩
    simp only [exec]
    split_ifs <;> rfl
  | clearStatusStage =>
    refine ⟨?_, rfl⟩
    simp only [exec, orNothing]
    split_ifs <;> simp [Stmt.replies]
  | statusOfDevice | writeConfigurationNumber | writeStatus | clearIN | clearOUT =>
    exact ⟨List.forall_mem_nil _, rfl⟩
  | _ => cases ha

lemma Steady.wp_reply (hR : Steady R E) (has : ∀ a ∈ as, a.replies = true)
    (hd : E d ∧ d.uenum = 0) : (program signature).Wp R Answers E as d := by
  refine Program.Wp.mono (B := fun d => E d ∧ d.uenum = 0) ?_ fun d hd => hd.1
  refine Program.wp_of_class (fun a => a.replies = true) ?_ ?_ ?_ has hd
  · exact fun e d he hd => ⟨hR.env e d he hd.1, hR.uenum e d he hd.1 hd.2⟩
  · exact fun a d _ hd _ => hd.2
  · intro a i d ha hd
    obtain ⟨hreplies, hu⟩ := replies_exec signature i d ha
    exact ⟨hreplies, hR.step signature a i d hd.1, hu.trans hd.2⟩

/-- `USB_Device_GetStatus` selects another endpoint, and the control endpoint again. -/
lemma Steady.wp_getStatus (hR : Steady R E) (r : RequestHeader) (hd : E d ∧ d.uenum = 0) :
    (program signature).Wp R Answers E (getStatus r) d := by
  unfold getStatus
  simp only
  split_ifs
  · exact hR.wp_reply (by simp [Stmt.replies]) hd
  · exact Program.wp_nil hR.env hd.1 fun _ => id
  · have hstatus : (program signature).Wp R Answers E
        [.selectEndpoint (epnum r.wIndex.toUInt8), .statusOfEndpoint] d :=
      hR.wp_plain (by simp [Stmt.plain, Stmt.pad, Stmt.control]) hd.1
    have hcontrol : ∀ d, E d → (program signature).Wp R Answers (fun d => E d ∧ d.uenum = 0)
        [.selectEndpoint 0] d := by
      intro d hd
      refine Program.wp_stmt hR.env hd (fun d _ => answers_of_not_control rfl) ?_
      refine fun i d hd => Or.inr (Program.wp_nil (A := fun d => E d ∧ d.uenum = 0) ?_ ?_ ?_)
      · exact fun e d he hd => ⟨hR.env e d he hd.1, hR.uenum e d he hd.1 hd.2⟩
      · exact ⟨hR.step signature (.selectEndpoint 0) i d hd, rfl⟩
      · exact fun _ => id
    refine (hstatus.append hcontrol).append fun d hd => ?_
    exact hR.wp_reply (by simp [Stmt.replies]) hd

lemma Steady.wp_switch (hR : Steady R E) (r : RequestHeader) (hd : E d ∧ d.uenum = 0) :
    (program signature).Wp R Answers E (handler signature r) d := by
  unfold handler
  simp only
  split_ifs
  · exact hR.wp_getStatus r hd
  · exact hR.wp_plain (plain_clearSetFeature r) hd.1
  · exact hR.wp_plain (plain_setAddress r) hd.1
  · exact hR.wp_plain (plain_getDescriptor signature r) hd.1
  · exact hR.wp_reply (by simp [getConfiguration, Stmt.replies]) hd
  · exact hR.wp_plain (plain_setConfiguration r) hd.1
  · exact Program.wp_nil hR.env hd.1 fun _ => id

/-- `USB_Device_ProcessControlRequest` looks for a request at the control endpoint only. -/
lemma Steady.wp_processControlRequest (hR : Steady R E) (hd : E d) :
    (program signature).Wp R Answers E [.switchRequest, .ifUnhandled] d := by
  refine Program.Wp.cons (B := E) ?_ fun d hd =>
    hR.wp_plain (by simp [Stmt.plain, Stmt.pad, Stmt.control]) hd
  refine Program.wp_stmt hR.env hd (fun _ _ h => by cases h) fun i d hd => Or.inr ?_
  show (program signature).Wp R Answers E
    (orNothing d.isSETUPReceived (handler signature d.controlRequest)) d
  unfold orNothing
  split_ifs with hsetup
  · have hu : d.uenum = 0 := by
      simp only [Device.isSETUPReceived, Bool.and_eq_true, beq_iff_eq] at hsetup
      exact hsetup.1
    exact hR.wp_switch d.controlRequest ⟨hd, hu⟩
  · exact Program.wp_nil hR.env hd fun _ => id

lemma Steady.wp_usbTask (hR : Steady R E) (hd : E d) :
    (program signature).Wp R Answers E [.usbTask] d := by
  have hnil : ∀ d, E d → (program signature).Wp R Answers E [] d :=
    fun d hd => Program.wp_nil hR.env hd fun _ => id
  refine Program.wp_stmt hR.env hd (fun _ _ h => by cases h) fun i d hd => Or.inr ?_
  show (program signature).Wp R Answers E (orNothing (d.deviceState ≠ .unattached)
    [.getCurrentEndpoint, .selectEndpoint 0, .ifSETUPReceived, .selectPrevEndpoint]) d
  unfold orNothing
  split_ifs
  · have hselect : (program signature).Wp R Answers E [.getCurrentEndpoint, .selectEndpoint 0] d :=
      hR.wp_plain (by simp [Stmt.plain, Stmt.pad, Stmt.control]) hd
    have hsetup : ∀ d, E d → (program signature).Wp R Answers E [.ifSETUPReceived] d := by
      intro d hd
      refine Program.wp_stmt hR.env hd (fun _ _ h => by cases h) fun i d hd => Or.inr ?_
      show (program signature).Wp R Answers E (orNothing d.isSETUPReceived [.readHeader]) d
      unfold orNothing
      split_ifs
      · refine Program.wp_stmt hR.env hd (fun _ _ h => by cases h) fun i d hd => Or.inr ?_
        exact hR.wp_processControlRequest (hR.step signature .readHeader i d hd)
      · exact hnil d hd
    refine (hselect.append hsetup).append fun d hd => ?_
    exact hR.wp_plain (by simp [Stmt.plain, Stmt.pad, Stmt.control]) hd
  · exact hnil d hd

/-- **The main loop** writes its answers to the control endpoint. -/
lemma Steady.wp_main (hR : Steady R E) (has : ∀ a ∈ as, a.control = true → a = .usbTask)
    (hd : E d) : (program signature).Wp R Answers E as d := by
  have hknown : ∀ a : Stmt, (a.control = true → a = .usbTask) →
      a.pad = true ∨ ∀ d, E d → (program signature).Wp R Answers E [a] d := by
    intro a ha
    cases hpad : a.pad with
    | true => exact Or.inl rfl
    | false =>
      right
      intro d hd
      cases hcontrol : a.control with
      | true =>
        obtain rfl := ha hcontrol
        exact hR.wp_usbTask hd
      | false => exact hR.wp_plain (List.forall_mem_singleton.2 ⟨hpad, hcontrol⟩) hd
  refine Program.wp_of_closed (fun a => a.pad = true) hR.env ?_ ?_
    (fun a ha => hknown a (has a ha)) hd
  · exact fun a d ha _ => answers_of_not_control (control_of_pad ha)
  · exact fun a i d ha hd => ⟨hR.step signature a i d hd,
      fun b hb => hknown b (control_exec signature ha b hb)⟩

lemma Steady.wp_body (hR : Steady R E) (hd : E d) :
    (program signature).Wp R Answers E [.usbTask, .padTask] d :=
  hR.wp_main (by simp [Stmt.control]) hd

end Answers

/-! ### The relay in the firmware -/

/-- What the mailbox and the IN endpoint hold. -/
def Device.relay (d : Device) (pc : RelayPc) : Relay :=
  ⟨pc, d.dataSend, d.stateSend, d.ledReport, (d.endpoints PAD_IN).bank⟩

/-- What a statement sends to the host at the IN endpoint. -/
def report : Stmt → Device → List UInt8
  | .sendReport, d | .clearIN, d =>
    if d.uenum = PAD_IN then (d.endpoints PAD_IN).bank else []
  | _, _ => []

section Relay

variable {signature : ℕ → UInt8} {a : Stmt} {i : Answer} {d : Device} {pc : RelayPc}

lemma relay_usbGen (pc : RelayPc) (suspi wakeupi : Bool) (cfgok : ℕ → Bool) :
    (usbGen suspi wakeupi cfgok d).relay pc = d.relay pc := by
  cases h : d.eorsti with
  | true =>
    obtain ⟨_, endpoints, hd, hbank, -⟩ := usbGen_of_reset suspi wakeupi cfgok h
    rw [hd]
    exact congrArg (Relay.mk pc d.dataSend d.stateSend d.ledReport) (hbank PAD_IN)
  | false =>
    obtain ⟨_, _, _, hd, -⟩ := usbGen_of_not_reset suspi wakeupi cfgok h
    rw [hd]
    rfl

lemma bank_update_self {f : Endpoint → Endpoint} {n : ℕ} (h : d.uenum = n) :
    ((d.update f).endpoints n).bank = (f (d.endpoints n)).bank := by
  subst h
  show (Function.update d.endpoints d.uenum (f d.endpoint) d.uenum).bank = _
  rw [Function.update_self]
  rfl

lemma bank_update_of_ne {f : Endpoint → Endpoint} {n : ℕ} (h : d.uenum ≠ n) :
    ((d.update f).endpoints n).bank = (d.endpoints n).bank := by
  show (Function.update d.endpoints d.uenum (f d.endpoint) n).bank = _
  rw [Function.update_of_ne h.symm]

lemma bank_update {f : Endpoint → Endpoint} (h : ∀ e, (f e).bank = e.bank) (n : ℕ) :
    ((d.update f).endpoints n).bank = (d.endpoints n).bank := by
  rcases eq_or_ne d.uenum n with hn | hn
  · rw [bank_update_self hn, h]
  · exact bank_update_of_ne hn

/-- A bank that is released leaves at the endpoint it belongs to. -/
lemma flow_release (d : Device) : Flow (d.endpoints PAD_IN).bank [] (report .sendReport d)
    ((d.update fun e => { e with bank := [] }).endpoints PAD_IN).bank := by
  by_cases hu : d.uenum = PAD_IN
  · rw [report, if_pos hu, bank_update_self hu]
    exact Flow.flush
  · rw [report, if_neg hu, bank_update_of_ne hu]
    exact Flow.idle

/-- The statements outside of `PAD_Task` do not touch the mailbox. -/
lemma relay_exec (pc : RelayPc) (ha : a.pad = false) : (exec signature a i d).2.relay pc =
    { d.relay pc with bank := ((exec signature a i d).2.endpoints PAD_IN).bank } := by
  cases a with
  | padTask | ifStateSend | ifReadWriteAllowedIN | waitUntilReady | writeLoop | writeByte
  | sendReport | clearStateSend | ifOUTReceived | ifReadWriteAllowedOUT | readReport
  | releaseReport | serialSendByte => cases ha
  | clearSETUP =>
    simp only [exec]
    split_ifs <;> rfl
  | _ => rfl

/-- They may empty the bank of the IN endpoint, but do not write to it. -/
lemma flow_bank (signature : ℕ → UInt8) (i : Answer) (ha : a.pad = false) (hanswers : Answers a d) :
    Flow (d.endpoints PAD_IN).bank [] (report a d)
      ((exec signature a i d).2.endpoints PAD_IN).bank := by
  have hsame : ∀ {bank}, bank = (d.endpoints PAD_IN).bank →
      Flow (d.endpoints PAD_IN).bank [] [] bank := fun h => h ▸ Flow.idle
  cases a with
  | padTask | ifStateSend | ifReadWriteAllowedIN | waitUntilReady | writeLoop | writeByte
  | sendReport | clearStateSend | ifOUTReceived | ifReadWriteAllowedOUT | readReport
  | releaseReport | serialSendByte => cases ha
  | clearSETUP =>
    simp only [exec]
    split_ifs <;> exact Flow.idle
  | clearIN => exact flow_release d
  | writeConfigurationNumber | writeStatus =>
    have hu : d.uenum ≠ PAD_IN := hanswers rfl ▸ by decide
    simp only [exec]
    exact hsame (bank_update_of_ne hu)
  | stallTransaction | clearStall | disableEndpoint | clearAlloc | enableEndpoint | writeUECFG0X
  | writeUECFG1X =>
    simp only [exec, Device.configure]
    refine hsame (bank_update ?_ PAD_IN)
    exact fun _ => rfl
  | resetEndpoint n =>
    refine Flow.lose ?_
    simp only [exec]
    rcases eq_or_ne PAD_IN n with rfl | hn
    · rw [Function.update_self]
      exact List.nil_sublist _
    · rw [Function.update_of_ne hn]
  | _ => exact Flow.idle

/-! ### Where `PAD_Task` is -/

/-- The statements of `PAD_Task` that are still to be executed. -/
def skeleton (todo : List Stmt) : List Stmt := todo.filter Stmt.pad

lemma skeleton_cons (ha : a.pad = true) (as : List Stmt) : skeleton (a :: as) = a :: skeleton as :=
  List.filter_cons_of_pos ha

lemma skeleton_exec (ha : a.pad = false) (as : List Stmt) :
    skeleton ((exec signature a i d).1 ++ as) = skeleton (a :: as) := by
  have hnil : (exec signature a i d).1.filter Stmt.pad = [] :=
    List.filter_eq_nil_iff.2 fun b hb => by simp [pad_exec signature ha b hb]
  unfold skeleton
  rw [List.filter_append, hnil, List.nil_append, List.filter_cons_of_neg (by simp [ha])]

/-- The step of the relay that `PAD_Task` is at. -/
inductive Shape : List Stmt → RelayPc → Prop
  | usbTask : Shape [] .usbTask
  | padTask : Shape [.padTask] .padTask
  | testSend : Shape [.ifStateSend, .ifOUTReceived] .testSend
  | ready : Shape [.ifReadWriteAllowedIN, .clearStateSend, .ifOUTReceived] .ready
  | waitUntilReady :
    Shape [.waitUntilReady, .sendReport, .clearStateSend, .ifOUTReceived] .write
  | writeLoop : Shape [.writeLoop, .sendReport, .clearStateSend, .ifOUTReceived] .write
  | writeByte : Shape [.writeByte, .sendReport, .clearStateSend, .ifOUTReceived] .write
  | clearIN : Shape [.sendReport, .clearStateSend, .ifOUTReceived] .clearIN
  | clearState : Shape [.clearStateSend, .ifOUTReceived] .clearState
  | outReceived : Shape [.ifOUTReceived] .outReceived
  | outReady : Shape [.ifReadWriteAllowedOUT, .releaseReport] .outReady
  | outRead : Shape [.readReport, .serialSendByte, .releaseReport] .outRead
  | outSend : Shape [.serialSendByte, .releaseReport] .outSend
  | clearOUT : Shape [.releaseReport] .clearOUT

/-- What the relay is told in the place of the statement `a`. -/
def padInput (a : Stmt) (i : Answer) (d : Device) : RelayInput :=
  .main (if a = .padTask then d.deviceState = .configured else i.yes) i.byte

/-- **A statement of `PAD_Task` is a step of the relay**, if it works with its endpoint. -/
theorem pad_step (signature : ℕ → UInt8) (i : Answer) {l : List Stmt}
    (h : Shape (a :: l) pc) (hwait : a ≠ .waitUntilReady) (hloop : a ≠ .writeLoop)
    (hu : a = .writeByte ∨ a = .sendReport → d.uenum = PAD_IN) :
    ∃ pc', Shape (skeleton (exec signature a i d).1 ++ l) pc' ∧
      (exec signature a i d).2.relay pc' = (d.relay pc).step (padInput a i d) ∧
      report a d = (d.relay pc).sent (padInput a i d) := by
  cases h with
  | padTask =>
    show ∃ pc', Shape (skeleton (orNothing (d.deviceState = .configured)
        [.ifStateSend, .selectEndpoint PAD_OUT, .ifOUTReceived]) ++ []) pc' ∧
      d.relay pc' =
        { d.relay .padTask with
          pc := if decide (d.deviceState = .configured) then .testSend else .usbTask } ∧ _
    cases decide (d.deviceState = .configured)
    · exact ⟨.usbTask, .usbTask, rfl, rfl⟩
    · exact ⟨.testSend, .testSend, rfl, rfl⟩
  | testSend =>
    show ∃ pc', Shape (skeleton (orNothing d.stateSend
        [.selectEndpoint PAD_IN, .ifReadWriteAllowedIN, .clearStateSend]) ++ _) pc' ∧
      d.relay pc' =
        { d.relay .testSend with pc := if d.stateSend then .ready else .outReceived } ∧ _
    cases d.stateSend
    · exact ⟨.outReceived, .outReceived, rfl, rfl⟩
    · exact ⟨.ready, .ready, rfl, rfl⟩
  | ready =>
    obtain ⟨yes, timeout, byte, header⟩ := i
    cases yes
    · exact ⟨.clearState, .clearState, rfl, rfl⟩
    · exact ⟨.write, .waitUntilReady, rfl, rfl⟩
  | waitUntilReady => exact absurd rfl hwait
  | writeLoop => exact absurd rfl hloop
  | writeByte =>
    refine ⟨.clearIN, .clearIN, ?_, rfl⟩
    exact congrArg (Relay.mk _ _ _ _) (bank_update_self
      (f := fun e => { e with bank := e.bank ++ [d.dataSend] }) (hu (Or.inl rfl)))
  | clearIN =>
    have hu := hu (Or.inr rfl)
    refine ⟨.clearState, .clearState, ?_, if_pos hu⟩
    exact congrArg (Relay.mk _ _ _ _) (bank_update_self (f := fun e => { e with bank := [] }) hu)
  | clearState => exact ⟨.outReceived, .outReceived, rfl, rfl⟩
  | outReceived =>
    obtain ⟨yes, timeout, byte, header⟩ := i
    cases yes
    · exact ⟨.usbTask, .usbTask, rfl, rfl⟩
    · exact ⟨.outReady, .outReady, rfl, rfl⟩
  | outReady =>
    obtain ⟨yes, timeout, byte, header⟩ := i
    cases yes
    · exact ⟨.clearOUT, .clearOUT, rfl, rfl⟩
    · exact ⟨.outRead, .outRead, rfl, rfl⟩
  | outRead => exact ⟨.outSend, .outSend, rfl, rfl⟩
  | outSend =>
    obtain ⟨yes, timeout, byte, header⟩ := i
    cases yes
    · exact ⟨.outSend, .outSend, rfl, rfl⟩
    · exact ⟨.clearOUT, .clearOUT, rfl, rfl⟩
  | clearOUT => exact ⟨.usbTask, .usbTask, rfl, rfl⟩

/-- `Endpoint_Write_Stream_LE` may release the bank before it writes. -/
def Phase (l : List Stmt) (pc : RelayPc) : Prop :=
  Shape l pc ∨
    l = [.sendReport, .waitUntilReady, .sendReport, .clearStateSend, .ifOUTReceived] ∧ pc = .write

/-- **A statement of `PAD_Task` invents, duplicates and reorders nothing**, whichever endpoint it
works with. -/
theorem flow_pad (signature : ℕ → UInt8) (i : Answer) (d : Device) {l : List Stmt}
    (h : Phase (a :: l) pc) :
    ∃ pc', Phase (skeleton (exec signature a i d).1 ++ l) pc' ∧
      Flow (d.relay pc).held [] (report a d) ((exec signature a i d).2.relay pc').held := by
  rcases h with h | ⟨h, rfl⟩
  · by_cases hwait : a = .waitUntilReady
    · subst hwait
      cases h
      rcases exec_waitUntilReady signature i d with h | ⟨-, h⟩ | ⟨-, h⟩ <;> rw [h]
      · exact ⟨.write, Or.inl .writeLoop, Flow.idle⟩
      · exact ⟨.write, Or.inl .waitUntilReady, Flow.idle⟩
      · -- the report is given up
        exact ⟨.clearIN, Or.inl .clearIN, (Flow.lose (List.nil_sublist _)).series Flow.idle⟩
    by_cases hloop : a = .writeLoop
    · subst hloop
      cases h
      rcases exec_writeLoop signature i d with h | ⟨-, h⟩ <;> rw [h]
      · exact ⟨.write, Or.inl .writeByte, Flow.idle⟩
      · exact ⟨.write, Or.inr ⟨rfl, rfl⟩, Flow.idle⟩
    by_cases hu : a = .writeByte ∨ a = .sendReport → d.uenum = PAD_IN
    · obtain ⟨pc', hshape, hrelay, hreport⟩ := pad_step signature i h hwait hloop hu
      refine ⟨pc', Or.inl hshape, ?_⟩
      rw [hrelay, hreport]
      exact Relay.flow (d.relay pc) (padInput a i d)
    · -- the wrong endpoint is written to, or released
      obtain ⟨ha, hne⟩ := Classical.not_imp.1 hu
      rcases ha with rfl | rfl
      · cases h
        refine ⟨.clearIN, Or.inl .clearIN, (Flow.lose (List.nil_sublist _)).series ?_⟩
        simp only [Device.relay, exec]
        rw [bank_update_of_ne hne]
        exact Flow.idle
      · cases h
        exact ⟨.clearState, Or.inl .clearState, Flow.idle.series (flow_release d)⟩
  · obtain ⟨rfl, rfl⟩ := List.cons_eq_cons.1 h
    exact ⟨.write, Or.inl .waitUntilReady, Flow.idle.series (flow_release d)⟩

end Relay

/-! ### Whole runs -/

/-- What leaves the IN endpoint. -/
def reports (c : Program.Config Device Stmt) : Program.Event Answer Interrupt → List UInt8
  | .main _ => c.todo.head?.elim [] (report · c.state)
  | .interrupt _ => []

/-- What comes in on the serial line. -/
def received (_ : Program.Config Device Stmt) : Program.Event Answer Interrupt → List UInt8
  | .interrupt (.usart1Rx udr1) => [udr1]
  | _ => []

/-- The controller accepts the configurations that `USB_GEN_vect` writes. -/
def Interrupt.Accepted : Interrupt → Prop
  | .usbGen _ _ cfgok => ∀ n, cfgok n = true
  | _ => True

section Run

variable {signature : ℕ → UInt8} {d d₀ : Device} {pc : RelayPc}
  {c c' : Program.Config Device Stmt} {es es₁ : List (Program.Event Answer Interrupt)}
  {e : Program.Event Answer Interrupt}

lemma flow_interrupt (e : Interrupt) : Flow (d.relay pc).held (received c (.interrupt e)) []
    ((interrupt e d).relay pc).held := by
  cases e with
  | usart1Rx udr1 => exact Relay.flow (d.relay pc) (.rx udr1)
  | usbGen suspi wakeupi cfgok =>
    rw [interrupt, relay_usbGen]
    exact Flow.idle
  | setup r => exact Flow.idle
  | reset config => exact Flow.idle.series (Flow.lose (List.nil_sublist _))

/-- **A step of the firmware invents, duplicates and reorders nothing**, if it does not answer a
request at the IN endpoint. -/
theorem flow_step (hphase : Phase (skeleton c.todo) pc)
    (hstep : (program signature).machine.step c e = some c') :
    ∃ pc', Phase (skeleton c'.todo) pc' ∧ ((∀ a ∈ c.todo.head?, Answers a c.state) →
      Flow (c.state.relay pc).held (received c e) (reports c e) (c'.state.relay pc').held) := by
  obtain ⟨todo, d⟩ := c
  cases e with
  | interrupt e =>
    obtain rfl := Option.some_inj.1 hstep
    exact ⟨pc, hphase, fun _ => flow_interrupt e⟩
  | main i =>
    cases todo with
    | nil =>
      obtain rfl := Option.some_inj.1 hstep
      rcases hphase with h | ⟨h, -⟩
      · cases h
        exact ⟨.padTask, Or.inl .padTask, fun _ => Flow.idle⟩
      · cases h
    | cons a as =>
      obtain rfl := Option.some_inj.1 hstep
      cases ha : a.pad with
      | false =>
        refine ⟨pc, ?_, fun hanswers => ?_⟩
        · show Phase (skeleton ((exec signature a i d).1 ++ as)) pc
          rwa [skeleton_exec ha]
        · show Flow _ [] (report a d) ((exec signature a i d).2.relay pc).held
          rw [relay_exec pc ha]
          exact Flow.idle.series (flow_bank signature i ha (hanswers a rfl))
      | true =>
        obtain ⟨pc', hphase', hflow⟩ := flow_pad signature i d (skeleton_cons ha as ▸ hphase)
        refine ⟨pc', ?_, fun _ => hflow⟩
        show Phase (skeleton ((exec signature a i d).1 ++ as)) pc'
        rwa [skeleton, List.filter_append]

/-- In every run, what is left of `PAD_Task` is one of the phases. -/
lemma run_phase (hrun : (program signature).machine.run ⟨[.usbTask, .padTask], d₀⟩ es = some c) :
    ∃ pc, Phase (skeleton c.todo) pc := by
  refine Machine.run_inv (I := fun c => ∃ pc, Phase (skeleton c.todo) pc) ?_ ?_ hrun
  · exact ⟨.padTask, Or.inl .padTask⟩
  · rintro c e c' ⟨pc, hphase⟩ hstep
    obtain ⟨pc', hphase', -⟩ := flow_step hphase hstep
    exact ⟨pc', hphase'⟩

lemma steady_accepted : Steady (fun e _ => e.Accepted) (fun _ => True) where
  step := fun _ _ _ _ _ => trivial
  env := fun _ _ _ _ => trivial
  uenum := by
    intro e d he _ hu
    cases e with
    | usbGen suspi wakeupi cfgok =>
      cases h : d.eorsti with
      | true =>
        obtain ⟨uenum, _, hd, -, hu'⟩ := usbGen_of_reset suspi wakeupi cfgok h
        rw [interrupt, hd]
        exact hu' he
      | false =>
        obtain ⟨_, _, _, hd, -⟩ := usbGen_of_not_reset suspi wakeupi cfgok h
        rw [interrupt, hd]
        exact hu
    | _ => exact hu

/-- A byte is received and reported. -/
def reporting : List (Program.Event Answer Interrupt) := arrival ++ List.replicate 6 (.main {})

end Run

end UsbJoystick.Pad.Firmware
