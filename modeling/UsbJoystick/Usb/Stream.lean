import UsbJoystick.Lib.Machine

/-!
The data stage of a control read: `Endpoint_Write_Control_PStream_LE` of LUFA, with which the relay
answers a request for a descriptor, together with the host that reads the answer.

The function cuts the buffer into packets of the size of the control endpoint and ends it with a
packet that is not full. The host stops at a packet that is not full or as soon as it has the
`wLength` bytes it asked for, and then sends a packet of its own, the only sign of the end that the
function gets. Both sides move on their own: a fetch may come at any time, also when there is
nothing to fetch, and between two turns of a loop the bus may be suspended or the host may give up
and send another request.

What holds in every state is `Sound`: what the host has, the packet on its way and what is left of
the buffer are the answer. It follows that the host ends up with the whole answer
(`control_read_exact`), and a measure that goes down in every round of undisturbed moves shows that
it does end (`control_read_completes`).
-/

namespace UsbJoystick.Usb

open Lib

/-- `USB_DeviceState`. -/
inductive DeviceState where
  | unattached | powered | default | addressed | configured | suspended
  deriving DecidableEq, Repr

/-- `ENDPOINT_RWCSTREAM_*`. -/
inductive StreamCode where
  | noError | hostAborted | deviceDisconnected | busSuspended
  deriving DecidableEq, Repr

/-! ### The function -/

inductive WriterPc where
  | data -- the test of the first loop
  | status -- the test of the second one
  | done (code : StreamCode)
  deriving DecidableEq, Repr

structure Writer where
  pc : WriterPc
  rest : List UInt8 -- the `Length` bytes from `DataStream` on
  lastPacketFull : Bool
  deriving DecidableEq, Repr

/-- What a turn of a loop finds. -/
structure Poll where
  state : DeviceState
  setupReceived : Bool
  outReceived : Bool
  inReady : Bool

/-- The checks that both loops make. -/
def Poll.abort (p : Poll) : Option StreamCode :=
  if p.state = .unattached then some .deviceDisconnected
  else if p.state = .suspended then some .busSuspended
  else if p.setupReceived then some .hostAborted
  else none

/-- The inner loop, which moves bytes to the bank of the endpoint while there is room: what is left,
and what is in the bank. -/
def fill (size : ℕ) : List UInt8 → List UInt8 → List UInt8 × List UInt8
  | [], bank => ([], bank)
  | b :: rest, bank => if bank.length < size then fill size rest (bank ++ [b]) else (b :: rest, bank)

/-- A turn of one of the loops, and the packet that is released with `Endpoint_ClearIN`. The bank
is empty when it is ready. -/
def Writer.turn (size : ℕ) (w : Writer) (p : Poll) : Writer × Option (List UInt8) :=
  match w.pc with
  | .data =>
    if w.rest = [] ∧ w.lastPacketFull = false then ({ w with pc := .status }, none)
    else match p.abort with
      | some code => ({ w with pc := .done code }, none)
      | none =>
        if p.outReceived then ({ w with pc := .status }, none)
        else if p.inReady then
          let (rest, bank) := fill size w.rest []
          ({ w with rest := rest, lastPacketFull := bank.length == size }, some bank)
        else (w, none)
  | .status =>
    if p.outReceived then ({ w with pc := .done .noError }, none)
    else match p.abort with
      | some code => ({ w with pc := .done code }, none)
      | none => (w, none)
  | .done _ => (w, none)

lemma fill_eq (size : ℕ) (data bank : List UInt8) :
    fill size data bank =
      (data.drop (size - bank.length), bank ++ data.take (size - bank.length)) := by
  induction data generalizing bank with
  | nil => simp [fill]
  | cons b rest ih =>
    rw [fill]
    split_ifs with hroom
    · obtain ⟨n, hn⟩ : ∃ n, size - bank.length = n + 1 := ⟨size - bank.length - 1, by omega⟩
      have hnext : size - (bank ++ [b]).length = n := by
        rw [List.length_append, List.length_singleton]
        omega
      rw [ih, hnext, hn]
      simp
    · rw [show size - bank.length = 0 by omega]
      simp

/-! ### Both sides -/

inductive HostPhase where
  | reading
  | finished -- the host has all that it waits for
  | acknowledged -- its packet that says so is in the endpoint
  deriving DecidableEq, Repr

/-- A control read in progress. -/
structure Transfer where
  device : Writer
  bank : Option (List UInt8) -- a packet that the host has not fetched
  got : List UInt8
  phase : HostPhase
  deriving DecidableEq, Repr

inductive TransferInput where
  | turn (state : DeviceState) (setupReceived : Bool)
  | fetch
  | acknowledge
  deriving DecidableEq, Repr

namespace Transfer

def poll (t : Transfer) (state : DeviceState) (setupReceived : Bool) : Poll where
  state := state
  setupReceived := setupReceived
  outReceived := t.phase == .acknowledged
  inReady := t.bank.isNone

def step (size wLength : ℕ) (t : Transfer) : TransferInput → Transfer
  | .turn state setupReceived =>
    let (device, packet) := t.device.turn size (t.poll state setupReceived)
    { t with device := device, bank := packet <|> t.bank }
  | .fetch =>
    match t.phase, t.bank with
    | .reading, some packet =>
      let got := t.got ++ packet
      { t with
        bank := none
        got := got
        phase := if packet.length < size ∨ wLength ≤ got.length then .finished else .reading }
    | _, _ => t
  | .acknowledge => if t.phase = .finished then { t with phase := .acknowledged } else t

/-- The beginning of the function: the buffer is cut to the `wLength` bytes that the host asks for,
and if there is nothing to send an empty packet is released. -/
def start (buffer : List UInt8) (wLength : ℕ) : Transfer where
  device := ⟨.data, buffer.take wLength, false⟩
  bank := if wLength < buffer.length then none else if buffer = [] then some [] else none
  got := []
  phase := .reading

end Transfer

/-- The bank of the control endpoint holds `size` bytes. -/
def transfer (size wLength : ℕ) : Machine Transfer TransferInput where
  step t e := some (t.step size wLength e)

/-! ### What a turn can do -/

/-- What happens in a turn of the function. -/
inductive Turn (size : ℕ) (t : Transfer) : Transfer → Prop
  | wait (h : t.device.pc = .data → t.bank ≠ none) (h' : t.phase ≠ .acknowledged) : Turn size t t
  | rest {code : StreamCode} (h : t.device.pc = .done code) : Turn size t t
  | leave (h : t.device.pc = .data)
      (h' : t.device.rest = [] ∧ t.device.lastPacketFull = false ∨ t.phase = .acknowledged) :
      Turn size t { t with device := { t.device with pc := .status } }
  | send (h : t.device.pc = .data) (h' : t.device.rest ≠ [] ∨ t.device.lastPacketFull = true)
      (hbank : t.bank = none) (hphase : t.phase ≠ .acknowledged) :
      Turn size t { t with
        device := { t.device with
          rest := t.device.rest.drop size
          lastPacketFull := (t.device.rest.take size).length == size }
        bank := some (t.device.rest.take size) }
  | finish (h : t.device.pc = .status) (h' : t.phase = .acknowledged) :
      Turn size t { t with device := { t.device with pc := .done .noError } }

/-- A turn that returns because the transfer is given up. -/
def Transfer.aborted (t : Transfer) (code : StreamCode) : Transfer :=
  { t with device := { t.device with pc := .done code } }

lemma Poll.abort_eq_none {p : Poll} (hstate : p.state ≠ .unattached ∧ p.state ≠ .suspended)
    (hsetup : p.setupReceived = false) : p.abort = none := by
  simp [Poll.abort, hstate.1, hstate.2, hsetup]

lemma Poll.abort_ne_noError (p : Poll) : p.abort ≠ some .noError := by
  unfold Poll.abort
  split_ifs <;> simp

/-- **What a turn can do.** It gives up only for a reason, and never with `NoError`. -/
theorem turn_cases (size wLength : ℕ) (t : Transfer) (state : DeviceState) (setup : Bool) :
    Turn size t (t.step size wLength (.turn state setup)) ∨
    ∃ code, (t.poll state setup).abort = some code ∧
      t.step size wLength (.turn state setup) = t.aborted code := by
  have hstep : t.step size wLength (.turn state setup) =
      { t with
        device := (t.device.turn size (t.poll state setup)).1
        bank := (t.device.turn size (t.poll state setup)).2 <|> t.bank } := rfl
  rw [hstep]
  generalize hpoll : t.poll state setup = p
  have hout : p.outReceived = (t.phase == .acknowledged) := by rw [← hpoll]; rfl
  have hin : p.inReady = t.bank.isNone := by rw [← hpoll]; rfl
  cases hpc : t.device.pc with
  | data =>
    simp only [Writer.turn, hpc]
    by_cases hover : t.device.rest = [] ∧ t.device.lastPacketFull = false
    · rw [if_pos hover]
      exact .inl (.leave hpc (.inl hover))
    rw [if_neg hover]
    cases habort : p.abort with
    | some code => exact .inr ⟨code, rfl, rfl⟩
    | none =>
      refine .inl ?_
      dsimp only
      by_cases hack : t.phase = .acknowledged
      · rw [if_pos (by simp [hout, hack])]
        exact .leave hpc (.inr hack)
      · rw [if_neg (by simp [hout, hack])]
        cases hbank : t.bank with
        | none =>
          rw [if_pos (by simp [hin, hbank]), fill_eq]
          have hmore : t.device.rest ≠ [] ∨ t.device.lastPacketFull = true := by
            by_contra hnot
            simp only [not_or, not_not, Bool.not_eq_true] at hnot
            exact hover hnot
          have hsend : Turn size t _ := .send hpc hmore hbank hack
          simpa [hpc] using hsend
        | some packet =>
          rw [if_neg (by simp [hin, hbank])]
          have hwait : Turn size t t := .wait (fun _ => by simp [hbank]) hack
          simpa [← hbank] using hwait
  | status =>
    simp only [Writer.turn, hpc]
    by_cases hack : t.phase = .acknowledged
    · rw [if_pos (by simp [hout, hack])]
      exact .inl (.finish hpc hack)
    · rw [if_neg (by simp [hout, hack])]
      cases habort : p.abort with
      | some code => exact .inr ⟨code, rfl, rfl⟩
      | none => exact .inl (.wait (by simp [hpc]) hack)
  | done code =>
    simp only [Writer.turn, hpc]
    exact .inl (.rest hpc)

/-! ### What always holds -/

/-- Between the two sides, with `answer` the bytes that are to be read. -/
structure Sound (size : ℕ) (answer : List UInt8) (t : Transfer) : Prop where
  parts : t.got ++ t.bank.getD [] ++ t.device.rest = answer
  bank : ∀ packet, t.bank = some packet → packet.length ≤ size ∧
    t.device.lastPacketFull = (packet.length == size) ∧
    (packet.length < size → t.device.rest = [])
  -- the function does not leave the first loop before the last packet is on its way
  more : t.phase = .reading → t.bank = none → t.device.rest = [] → t.device.lastPacketFull = true
  last : t.phase = .reading → t.device.pc = .status →
    t.bank ≠ none ∧ t.device.lastPacketFull = false
  got : t.phase ≠ .reading → t.got = answer
  done : t.device.pc = .done .noError → t.phase = .acknowledged

section Sound

variable {size wLength : ℕ} {answer : List UInt8} {t t' : Transfer}

lemma sound_start (buffer : List UInt8) (hsize : 0 < size) (hlength : 0 < wLength) :
    Sound size (buffer.take wLength) (.start buffer wLength) := by
  have hbank : (Transfer.start buffer wLength).bank = if buffer = [] then some [] else none := by
    by_cases hempty : buffer = []
    · simp [Transfer.start, hempty]
    · simp [Transfer.start, hempty]
  refine ⟨?_, ?_, ?_, ?_, ?_, ?_⟩
  · rw [hbank]
    split_ifs <;> rfl
  · intro packet hpacket
    rw [hbank] at hpacket
    split_ifs at hpacket with hempty
    obtain rfl := Option.some_inj.1 hpacket
    refine ⟨Nat.zero_le _, ?_, fun _ => by simp [Transfer.start, hempty]⟩
    simp [Transfer.start, hsize.ne]
  · intro _ hnone hrest
    have hbuffer : buffer = [] := by
      have hor : wLength = 0 ∨ buffer = [] := by simpa [Transfer.start] using hrest
      exact hor.resolve_left hlength.ne'
    rw [hbank, if_pos hbuffer] at hnone
    cases hnone
  · rintro - ⟨⟩
  · intro h
    exact absurd rfl h
  · rintro ⟨⟩

/-- The part of the soundness that does not look at where the function is. -/
lemma Sound.aborted (hs : Sound size answer t) {code : StreamCode} (hcode : code ≠ .noError) :
    Sound size answer (t.aborted code) := by
  refine ⟨hs.parts, hs.bank, hs.more, ?_, hs.got, ?_⟩
  · rintro - ⟨⟩
  · intro h
    exact absurd (WriterPc.done.inj h) hcode

lemma Sound.turn (hs : Sound size answer t) (h : Turn size t t') : Sound size answer t' := by
  cases h with
  | wait | rest => exact hs
  | leave hpc hleave =>
    refine ⟨hs.parts, hs.bank, hs.more, ?_, hs.got, ?_⟩
    · intro hreading _
      rcases hleave with ⟨hrest, hfull⟩ | hack
      · refine ⟨fun hnone => ?_, hfull⟩
        exact absurd (hs.more hreading hnone hrest) (by simp [hfull])
      · exact absurd (hreading.symm.trans hack) (by decide)
    · rintro ⟨⟩
  | send hpc hmore hbank hphase =>
    have hparts := hs.parts
    simp only [hbank, Option.getD_none, List.append_nil] at hparts
    refine ⟨?_, ?_, ?_, ?_, hs.got, ?_⟩
    · show t.got ++ t.device.rest.take size ++ t.device.rest.drop size = answer
      rw [List.append_assoc, List.take_append_drop, hparts]
    · rintro packet ⟨⟩
      refine ⟨List.length_take_le _ _, rfl, ?_⟩
      intro hshort
      rw [List.length_take] at hshort
      exact List.drop_eq_nil_of_le (by omega)
    · rintro - ⟨⟩
    · intro _ hstatus
      exact absurd (hpc.symm.trans hstatus) (by decide)
    · intro hdone
      exact absurd (hpc.symm.trans hdone) (by decide)
  | finish hpc hack =>
    refine ⟨hs.parts, hs.bank, hs.more, ?_, hs.got, fun _ => hack⟩
    rintro - ⟨⟩

/-- A fetch while the host is reading and a packet is there. -/
lemma step_fetch {packet : List UInt8} (hreading : t.phase = .reading)
    (hbank : t.bank = some packet) :
    t.step size wLength .fetch = { t with
      bank := none
      got := t.got ++ packet
      phase := if packet.length < size ∨ wLength ≤ (t.got ++ packet).length
        then .finished else .reading } := by
  simp only [Transfer.step]
  rw [hreading, hbank]

/-- Any other fetch finds nothing. -/
lemma step_fetch_eq_self (h : t.phase = .reading → t.bank = none) :
    t.step size wLength .fetch = t := by
  simp only [Transfer.step]
  split
  · next packet hreading hbank => exact absurd (h hreading) (by simp [hbank])
  · rfl

/-- The two signs of the end do not mislead the host: when it has seen one, it has the answer. -/
lemma Sound.fetch (hs : Sound size answer t) (hanswer : answer.length ≤ wLength) :
    Sound size answer (t.step size wLength .fetch) := by
  by_cases hfetch : t.phase = .reading → t.bank = none
  · rw [step_fetch_eq_self hfetch]
    exact hs
  obtain ⟨hreading, hsome⟩ := Classical.not_imp.1 hfetch
  obtain ⟨packet, hbank⟩ := Option.ne_none_iff_exists'.1 hsome
  obtain ⟨hlen, hfull, hshort⟩ := hs.bank packet hbank
  have hparts : t.got ++ packet ++ t.device.rest = answer := by
    simpa [hbank] using hs.parts
  rw [step_fetch hreading hbank]
  refine ⟨by simpa using hparts, (by rintro _ ⟨⟩), ?_, ?_, ?_, ?_⟩
  · intro hphase _ _
    have hnot : ¬ packet.length < size := by
      intro hlt
      simp [hlt] at hphase
    show t.device.lastPacketFull = true
    rw [hfull]
    simp only [beq_iff_eq]
    omega
  · intro hphase hstatus
    -- the function is past the first loop, so that the packet is not full and ends the reading
    have hlast := (hs.last hreading hstatus).2
    rw [hfull, beq_eq_false_iff_ne] at hlast
    have hlt : packet.length < size := by omega
    simp [hlt] at hphase
  · intro hphase
    show t.got ++ packet = answer
    have hend : packet.length < size ∨ wLength ≤ (t.got ++ packet).length := by
      by_contra hnot
      exact hphase (if_neg hnot)
    have hrest : t.device.rest = [] := by
      rcases hend with hlt | hle
      · exact hshort hlt
      · have hsum := congrArg List.length hparts
        rw [List.length_append] at hsum
        exact List.eq_nil_of_length_eq_zero (by omega)
    rw [← hparts, hrest, List.append_nil]
  · intro hdone
    exact absurd (hreading.symm.trans (hs.done hdone)) (by decide)

lemma Sound.acknowledge (hs : Sound size answer t) :
    Sound size answer (t.step size wLength .acknowledge) := by
  simp only [Transfer.step]
  split_ifs with hfinished
  · refine ⟨hs.parts, hs.bank, ?_, ?_, fun _ => hs.got (by simp [hfinished]), fun _ => rfl⟩
    · rintro ⟨⟩
    · rintro ⟨⟩
  · exact hs

lemma Sound.step (hs : Sound size answer t) (hanswer : answer.length ≤ wLength)
    (e : TransferInput) : Sound size answer (t.step size wLength e) := by
  cases e with
  | turn state setup =>
    rcases turn_cases size wLength t state setup with h | ⟨code, habort, h⟩
    · exact hs.turn h
    · rw [h]
      refine hs.aborted fun hcode => ?_
      exact (t.poll state setup).abort_ne_noError (hcode ▸ habort)
  | fetch => exact hs.fetch hanswer
  | acknowledge => exact hs.acknowledge

lemma run_sound {buffer : List UInt8} {es : List TransferInput} (hsize : 0 < size)
    (hlength : 0 < wLength) (h : (transfer size wLength).run (.start buffer wLength) es = some t) :
    Sound size (buffer.take wLength) t := by
  refine Machine.run_inv (sound_start buffer hsize hlength) ?_ h
  rintro t e _ hs ⟨⟩
  exact hs.step (List.length_take_le _ _) e

/-- **A control read is exact.** In every run, whatever the order in which both sides move and
whatever happens to the bus, the host has a beginning of the answer, and all of it when it has
stopped reading; and the function returns `NoError` only after the host has said that it has it. -/
theorem control_read_exact {buffer : List UInt8} {es : List TransferInput} (hsize : 0 < size)
    (hlength : 0 < wLength) (h : (transfer size wLength).run (.start buffer wLength) es = some t) :
    t.got <+: buffer.take wLength ∧ (t.phase ≠ .reading → t.got = buffer.take wLength) ∧
    (t.device.pc = .done .noError → t.phase = .acknowledged) := by
  have hs := run_sound hsize hlength h
  refine ⟨⟨t.bank.getD [] ++ t.device.rest, ?_⟩, hs.got, hs.done⟩
  rw [← hs.parts, List.append_assoc]

/-- Three bytes in packets of two, of which the host asks for more. -/
theorem control_read_exact_three :
    ∃ t, (transfer 2 5).run (.start [1, 2, 3] 5)
        [.turn .default false, .fetch, .turn .default false, .fetch] = some t ∧
      t.phase ≠ .reading ∧ t.got = [1, 2, 3] := by
  refine ⟨_, rfl, by decide, ?_⟩
  have hrun : (transfer 2 5).run (.start [1, 2, 3] 5)
      [.turn .default false, .fetch, .turn .default false, .fetch] =
    some ⟨⟨.data, [], false⟩, none, [1, 2, 3], .finished⟩ := rfl
  exact (control_read_exact (by decide) (by decide) hrun).2.1 (by decide)

end Sound

/-! ### The end of the transfer -/

/-- How many rounds it takes at most. -/
def Transfer.rank (size : ℕ) (t : Transfer) : ℕ :=
  match t.device.pc, t.phase with
  | .done _, _ => 0
  | .status, .acknowledged => 1
  | .status, _ => 2
  | .data, .acknowledged => 2
  | .data, _ => t.device.rest.length / size + 3 + if t.bank.isSome then 1 else 0

/-- A turn of the function that nothing disturbs, and then one move of the host of each kind. -/
def round (state : DeviceState) : List TransferInput := [.turn state false, .fetch, .acknowledge]

/-- The function has not given up. -/
def Transfer.Going (t : Transfer) : Prop := ∀ code, t.device.pc = .done code → code = .noError

section Progress

variable {size wLength : ℕ} {answer : List UInt8} {t t' : Transfer}

/-- The moves of the host in a round. -/
def Transfer.hostMoves (size wLength : ℕ) (t : Transfer) : Transfer :=
  (t.step size wLength .fetch).step size wLength .acknowledge

/-- The host has the answer and says so, or it goes on reading after a full packet. -/
lemma hostMoves_cases (wLength : ℕ) (hs : Sound size answer t) :
    (t.hostMoves size wLength).device = t.device ∧
    ((t.hostMoves size wLength).phase = .acknowledged ∨
      t.phase = .reading ∧ (t.hostMoves size wLength).phase = .reading ∧
        (t.hostMoves size wLength).bank = none ∧
        (t.bank ≠ none → t.device.lastPacketFull = true)) := by
  unfold Transfer.hostMoves
  by_cases hfetch : t.phase = .reading → t.bank = none
  · rw [step_fetch_eq_self hfetch]
    cases hphase : t.phase with
    | reading =>
      have hnone := hfetch hphase
      simp [Transfer.step, hphase, hnone]
    | finished | acknowledged => simp [Transfer.step, hphase]
  · obtain ⟨hreading, hsome⟩ := Classical.not_imp.1 hfetch
    obtain ⟨packet, hbank⟩ := Option.ne_none_iff_exists'.1 hsome
    obtain ⟨hlen, hfull, -⟩ := hs.bank packet hbank
    rw [step_fetch hreading hbank]
    by_cases hend : packet.length < size ∨ wLength ≤ (t.got ++ packet).length
    · rw [if_pos hend]
      exact ⟨rfl, .inl rfl⟩
    · rw [if_neg hend]
      refine ⟨rfl, .inr ⟨hreading, rfl, rfl, fun _ => ?_⟩⟩
      rw [hfull, beq_iff_eq]
      omega

lemma rank_acknowledged (h : t.phase = .acknowledged) : t.rank size ≤ 2 := by
  unfold Transfer.rank
  cases t.device.pc <;> simp [h]

lemma rank_data (hpc : t.device.pc = .data) (h : t.phase ≠ .acknowledged) :
    t.rank size = t.device.rest.length / size + 3 + if t.bank.isSome then 1 else 0 := by
  unfold Transfer.rank
  rw [hpc]
  cases hphase : t.phase with
  | reading | finished => rfl
  | acknowledged => exact absurd hphase h

lemma rank_status (hpc : t.device.pc = .status) :
    t.rank size = if t.phase = .acknowledged then 1 else 2 := by
  unfold Transfer.rank
  rw [hpc]
  cases hphase : t.phase <;> rfl

lemma rank_done {code : StreamCode} (hpc : t.device.pc = .done code) : t.rank size = 0 := by
  unfold Transfer.rank
  rw [hpc]

/-- **A round gets on**, as long as there is something left to do. -/
theorem rank_round (hsize : 0 < size) (hs : Sound size answer t) (h : Turn size t t') :
    (t'.hostMoves size wLength).rank size ≤ t.rank size - 1 := by
  obtain ⟨hdevice, hhost⟩ := hostMoves_cases wLength (hs.turn h)
  generalize t'.hostMoves size wLength = t'' at hdevice hhost
  cases h with
  | wait hbank hphase =>
    cases hpc : t.device.pc with
    | data =>
      have hsome : t.bank.isSome := Option.ne_none_iff_isSome.1 (hbank hpc)
      rw [rank_data hpc hphase, if_pos hsome]
      rcases hhost with hack | ⟨-, hreading, hnone, -⟩
      · exact (rank_acknowledged hack).trans (Nat.le_add_left _ _)
      · rw [rank_data (hdevice ▸ hpc) (by simp [hreading]), hdevice, hnone]
        simp
    | status =>
      rw [rank_status hpc, if_neg hphase, rank_status (hdevice ▸ hpc)]
      rcases hhost with hack | ⟨hreading, -, -, hfull⟩
      · simp [hack]
      · -- the packet that is left cannot be a full one
        obtain ⟨hsome, hlast⟩ := hs.last hreading hpc
        exact absurd (hfull hsome) (by simp [hlast])
    | done code => simp [rank_done (hdevice ▸ hpc)]
  | rest hpc => simp [rank_done (hdevice ▸ hpc)]
  | leave hpc hleave =>
    have hstatus : t''.device.pc = .status := by rw [hdevice]
    have hack : t''.phase = .acknowledged := by
      rcases hhost with hack | ⟨hreading, -, -, hfull⟩
      · exact hack
      · rcases hleave with ⟨hrest, hover⟩ | hack
        · have hsome : t.bank ≠ none := by
            intro hnone
            exact absurd (hs.more hreading hnone hrest) (by simp [hover])
          exact absurd (hfull hsome) (by simp [hover])
        · exact absurd (hack.symm.trans hreading) (by decide)
    rw [rank_status hstatus, if_pos hack]
    by_cases hphase : t.phase = .acknowledged
    · simp [Transfer.rank, hpc, hphase]
    · rw [rank_data hpc hphase, Nat.add_right_comm]
      exact Nat.le_add_left 1 _
  | send hpc hmore hbank hphase =>
    have hrank : t.rank size - 1 = t.device.rest.length / size + 2 := by
      rw [rank_data hpc hphase, hbank]
      rfl
    rw [hrank]
    rcases hhost with hack | ⟨-, hreading, hnone, hfull⟩
    · exact (rank_acknowledged hack).trans (Nat.le_add_left _ _)
    · have hlen : (t.device.rest.take size).length = size := by simpa using hfull
      rw [List.length_take] at hlen
      rw [rank_data (by rw [hdevice]; exact hpc) (by simp [hreading]), hdevice, hnone,
        List.length_drop, Nat.div_eq_sub_div (a := t.device.rest.length) hsize (by omega)]
      simp
  | finish hpc hack =>
    have hdone : t''.device.pc = .done .noError := by rw [hdevice]
    rw [rank_done hdone]
    exact Nat.zero_le _

lemma Transfer.Going.turn (hgoing : t.Going) (h : Turn size t t') : t'.Going := by
  cases h with
  | wait | rest => exact hgoing
  | leave => rintro _ ⟨⟩
  | send hpc =>
    intro code hdone
    exact absurd (hpc.symm.trans hdone) (by simp)
  | finish =>
    rintro _ ⟨⟩
    rfl

/-- The states in which the bus is neither suspended nor gone. -/
def DeviceState.Live (state : DeviceState) : Prop := state ≠ .unattached ∧ state ≠ .suspended

instance (state : DeviceState) : Decidable state.Live :=
  inferInstanceAs (Decidable (_ ∧ _))

lemma run_round {state : DeviceState} (hstate : state.Live) (hsize : 0 < size)
    (hanswer : answer.length ≤ wLength) (hs : Sound size answer t) (hgoing : t.Going) :
    ∃ t', (transfer size wLength).run t (round state) = some t' ∧
      (Sound size answer t' ∧ t'.Going) ∧ t'.rank size ≤ t.rank size - 1 := by
  rcases turn_cases size wLength t state false with hturn | ⟨code, habort, -⟩
  · have hs' := hs.turn hturn
    have hgoing' := hgoing.turn hturn
    refine ⟨_, rfl, ⟨(hs'.fetch hanswer).acknowledge, ?_⟩, rank_round hsize hs hturn⟩
    intro code hdone
    refine hgoing' code ?_
    rw [← (hostMoves_cases wLength hs').1]
    exact hdone
  · rw [Poll.abort_eq_none (p := t.poll state false) hstate rfl] at habort
    cases habort

lemma rank_le (hs : Sound size answer t) : t.rank size ≤ answer.length / size + 4 := by
  have hrest : t.device.rest.length / size ≤ answer.length / size := by
    refine Nat.div_le_div_right ?_
    rw [← hs.parts, List.length_append]
    exact Nat.le_add_left _ _
  generalize answer.length / size = q at hrest ⊢
  cases hpc : t.device.pc with
  | data =>
    by_cases hphase : t.phase = .acknowledged
    · exact (rank_acknowledged hphase).trans (by omega)
    · rw [rank_data hpc hphase]
      generalize t.device.rest.length / size = q' at hrest ⊢
      split_ifs <;> omega
  | status =>
    rw [rank_status hpc]
    split_ifs <;> omega
  | done code =>
    rw [rank_done hpc]
    exact Nat.zero_le _

/-- **A control read comes to its end.** From every state of a transfer that has not been given up,
if the bus stays up and there is no other request, the function returns `NoError` and the host has
the answer, after at most one round a packet and four more. -/
theorem control_read_completes {buffer : List UInt8} {es : List TransferInput}
    {states : List DeviceState} (hsize : 0 < size) (hlength : 0 < wLength)
    (h : (transfer size wLength).run (.start buffer wLength) es = some t) (hgoing : t.Going)
    (hstates : ∀ state ∈ states, state.Live)
    (hlong : (buffer.take wLength).length / size + 4 ≤ states.length) :
    ∃ t', (transfer size wLength).run t (states.flatMap round) = some t' ∧
      t'.device.pc = .done .noError ∧ t'.got = buffer.take wLength := by
  have hs := run_sound hsize hlength h
  obtain ⟨t', hrun, ⟨hs', hgoing'⟩, hrank⟩ := Machine.run_rounds (Transfer.rank size)
    (I := fun t => Sound size (buffer.take wLength) t ∧ t.Going) (states.map round)
    (fun t ⟨hs, hgoing⟩ r hr => by
      obtain ⟨state, hmem, rfl⟩ := List.mem_map.1 hr
      exact run_round (hstates state hmem) hsize (List.length_take_le _ _) hs hgoing)
    ⟨hs, hgoing⟩ (by rw [List.length_map]; exact (rank_le hs).trans hlong)
  have hdone : t'.device.pc = .done .noError := by
    cases hpc : t'.device.pc with
    | data =>
      unfold Transfer.rank at hrank
      rw [hpc] at hrank
      cases hphase : t'.phase <;> simp [hphase] at hrank
    | status =>
      rw [rank_status hpc] at hrank
      split_ifs at hrank
    | done code => rw [hgoing' code hpc]
  refine ⟨t', hrun, hdone, hs'.got ?_⟩
  rw [hs'.done hdone]
  simp

/-- The same three bytes, after the first packet. -/
theorem control_read_completes_three :
    ∃ t t', (transfer 2 5).run (.start [1, 2, 3] 5) [.turn .default false, .fetch] = some t ∧
      (transfer 2 5).run t ((List.replicate 5 DeviceState.default).flatMap round) = some t' ∧
      t'.device.pc = .done .noError ∧ t'.got = [1, 2, 3] := by
  have hrun : (transfer 2 5).run (.start [1, 2, 3] 5) [.turn .default false, .fetch] =
    some ⟨⟨.data, [3], true⟩, none, [1, 2], .reading⟩ := rfl
  have hlive : ∀ state ∈ List.replicate 5 DeviceState.default, state.Live := by decide
  obtain ⟨t', hrun', hdone, hgot⟩ := control_read_completes (by decide) (by decide) hrun
    (by rintro _ ⟨⟩) hlive (by decide)
  exact ⟨_, t', hrun, hrun', hdone, hgot⟩

end Progress

end UsbJoystick.Usb
