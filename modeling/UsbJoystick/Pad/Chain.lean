import UsbJoystick.Pad.Arduino
import UsbJoystick.Pad.Relay

/-!
The joystick chain, from the buttons to `key_pressed`.

The ATmega328p, the serial line, the ATmega16u2, the USB and the host take their steps in any
order. The serial line and the IN endpoint of the USB are queues that may lose bytes anywhere and
do nothing else to them. Every one of the four is a lossy stage, and they stand in series; so the
chain is a lossy stage from the latched snapshots to the keys that `key_pressed` returns
(`Chain.flow`).
-/

namespace UsbJoystick.Pad

open UsbJoystick.Lib

/-- What `libusb_interrupt_transfer` leaves in `data` and `bytes_in`. -/
structure Transfer where
  data : UInt8
  bytesIn : ℕ

/-- `key_pressed`, in `libusb/usb_host.c`. -/
def keyPressed (t : Transfer) : UInt8 := if t.bytesIn = 1 then t.data else 0

/-- The two programs and what is on its way between them and the host. -/
structure Chain where
  arduino : Arduino
  serial : List UInt8
  relay : Relay
  usb : List UInt8

inductive ChainInput where
  | arduino (i : ArduinoInput) -- the ATmega328p takes a step
  | serialLoss (i : ℕ) -- a byte on the serial line is lost
  /-- The receive interrupt of the ATmega16u2 takes the next byte of the serial line. -/
  | usart1Rx
  /-- The main loop of the ATmega16u2 takes a step. -/
  | relay (yes : Bool) (report : UInt8)
  | usbLoss (i : ℕ) -- a byte on the USB is lost
  /-- The host calls `key_pressed`. A transfer takes the next byte, or it takes none and `data`
  keeps what it happened to hold. -/
  | keyPressed (transfers : Bool) (data : UInt8)

namespace Chain

/-- The transfer that the host makes, and what is left on the USB. -/
def transfer (transfers : Bool) (data : UInt8) : List UInt8 → Transfer × List UInt8
  | [] => (⟨data, 0⟩, [])
  | b :: rest => if transfers then (⟨b, 1⟩, rest) else (⟨data, 0⟩, b :: rest)

def step (c : Chain) : ChainInput → Option Chain
  | .arduino i =>
    some { c with arduino := c.arduino.step i, serial := c.serial ++ c.arduino.sent i }
  | .serialLoss i => some { c with serial := c.serial.eraseIdx i }
  | .usart1Rx =>
    match c.serial with
    | [] => none
    | b :: rest => some { c with serial := rest, relay := c.relay.step (.rx b) }
  | .relay yes report =>
    some { c with relay := c.relay.step (.main yes report),
                  usb := c.usb ++ c.relay.sent (.main yes report) }
  | .usbLoss i => some { c with usb := c.usb.eraseIdx i }
  | .keyPressed transfers data => some { c with usb := (transfer transfers data c.usb).2 }

def latched (_ : Chain) : ChainInput → List UInt8
  | .arduino i => Arduino.latched i
  | _ => []

def sentSerial (c : Chain) : ChainInput → List UInt8
  | .arduino i => c.arduino.sent i
  | _ => []

def returned (c : Chain) : ChainInput → List UInt8
  | .keyPressed transfers data => [Pad.keyPressed (transfer transfers data c.usb).1]
  | _ => []

def chain : Machine Chain ChainInput where
  step := step

/-- Both programs at their start and nothing on its way; the locals `msg` and `LEDReport` have no
value yet. -/
def initial (msg ledReport : UInt8) : Chain :=
  ⟨Arduino.initial msg, [], Relay.initial ledReport, []⟩

/-! ### One step -/

/-- What is on its way through the chain, oldest first. -/
def held (c : Chain) : List UInt8 := c.usb ++ (c.relay.held ++ (c.serial ++ c.arduino.held))

/-- The keys among the values returned. -/
def keys (l : List UInt8) : List UInt8 := l.filter fun k => k ≠ 0

lemma flow_transfer (transfers : Bool) (data : UInt8) (usb : List UInt8) :
    Flow usb [] (keys [Pad.keyPressed (transfer transfers data usb).1])
      (transfer transfers data usb).2 := by
  have none : keys [Pad.keyPressed ⟨data, 0⟩] = [] := by simp [keys, Pad.keyPressed]
  cases usb with
  | nil =>
    rw [transfer, none]
    exact Flow.idle
  | cons b rest =>
    cases transfers with
    | false =>
      rw [transfer, if_neg (by decide), none]
      exact Flow.idle
    | true =>
      rw [transfer, if_pos rfl]
      -- a byte that is zero would not count as a key
      have hkeys : (keys [b]).Sublist [b] := List.filter_sublist
      exact Flow.dequeue.lose_out hkeys

/-- **The chain invents, duplicates and reorders nothing.** -/
theorem flow {c c' : Chain} {e : ChainInput} (h : c.step e = some c') :
    Flow c.held (Arduino.messages (c.latched e)) (keys (c.returned e)) c'.held := by
  cases e with
  | arduino i =>
    obtain rfl := Option.some_inj.1 h
    exact (((c.arduino.flow i).series Flow.enqueue).series Flow.idle).series Flow.idle
  | serialLoss i =>
    obtain rfl := Option.some_inj.1 h
    exact ((Flow.idle.series (Flow.eraseIdx i)).series Flow.idle).series Flow.idle
  | usart1Rx =>
    obtain ⟨arduino, serial, relay, usb⟩ := c
    cases serial with
    | nil => cases h
    | cons b rest =>
      obtain rfl := Option.some_inj.1 h
      exact ((Flow.idle.series Flow.dequeue).series (relay.flow (.rx b))).series Flow.idle
  | relay yes report =>
    obtain rfl := Option.some_inj.1 h
    exact ((Flow.idle.series Flow.idle).series (c.relay.flow (.main yes report))).series
      Flow.enqueue
  | usbLoss i =>
    obtain rfl := Option.some_inj.1 h
    exact ((Flow.idle.series Flow.idle).series Flow.idle).series (Flow.eraseIdx i)
  | keyPressed transfers data =>
    obtain rfl := Option.some_inj.1 h
    exact ((Flow.idle.series Flow.idle).series Flow.idle).series (flow_transfer _ _ _)

/-! ### Runs -/

section Run

variable {msg ledReport : UInt8} {es : List ChainInput} {c : Chain}

lemma keys_log : chain.log (fun c e => keys (c.returned e)) (initial msg ledReport) es =
    keys (chain.log returned (initial msg ledReport) es) := by
  simp [Machine.log, keys, List.filter_flatMap]

lemma messages_log :
    chain.log (fun c e => Arduino.messages (c.latched e)) (initial msg ledReport) es =
      Arduino.messages (chain.log latched (initial msg ledReport) es) := by
  simp [Machine.log, Arduino.messages, List.filter_flatMap, List.map_flatMap]

/-- The byte that stands for no button never gets on the serial line. -/
theorem run_checked (hrun : chain.run (initial msg ledReport) es = some c) :
    c.arduino.Checked ∧ 0x20 ∉ chain.log sentSerial (initial msg ledReport) es := by
  refine Machine.log_inv (R := fun (l : List UInt8) c => c.arduino.Checked ∧ 0x20 ∉ l)
    ⟨?_, List.not_mem_nil⟩ ?_ hrun
  · exact fun h => by cases h
  · rintro l c e c' ⟨hchecked, hl⟩ hstep
    have quiet : c'.arduino = c.arduino → c.sentSerial e = [] →
        c'.arduino.Checked ∧ 0x20 ∉ l ++ c.sentSerial e := by
      intro ha hs
      rw [ha, hs, List.append_nil]
      exact ⟨hchecked, hl⟩
    cases e with
    | arduino i =>
      obtain rfl := Option.some_inj.1 hstep
      refine ⟨hchecked.step i, fun hmem => ?_⟩
      rcases List.mem_append.1 hmem with hmem | hmem
      · exact hl hmem
      · exact hchecked.sent i hmem
    | usart1Rx =>
      obtain ⟨arduino, serial, relay, usb⟩ := c
      cases serial with
      | nil => cases hstep
      | cons b rest =>
        obtain rfl := Option.some_inj.1 hstep
        exact quiet rfl rfl
    | _ =>
      obtain rfl := Option.some_inj.1 hstep
      exact quiet rfl rfl

/-- **Key delivery invents, duplicates and reorders nothing.** In every run of the chain the
keys that `key_pressed` has returned are, in order, among the messages of the nonzero snapshots
latched so far; and the byte `0x20` is never sent. -/
theorem key_delivery (hrun : chain.run (initial msg ledReport) es = some c) :
    ((chain.log returned (initial msg ledReport) es).filter fun k => k ≠ 0).Sublist
      (((chain.log latched (initial msg ledReport) es).filter fun s => s ≠ 0).map
        fun s => 0x20 ||| s) ∧
    0x20 ∉ chain.log sentSerial (initial msg ledReport) es := by
  have hflow := Flow.log (M := chain) held (fun _ _ _ h => flow h) hrun
  rw [keys_log, messages_log] at hflow
  refine ⟨?_, (run_checked hrun).2⟩
  have hmessage : message = fun s => 0x20 ||| s := funext fun s => UInt8.or_comm s 0x20
  rw [← hmessage]
  exact hflow.sublist

/-- A press of the left button that comes through. -/
def leftPress : List ChainInput :=
  .arduino (.pcint2 0xBF) :: List.replicate 5 (.arduino (.main true)) ++ [.usart1Rx] ++
    List.replicate 6 (.relay true 0) ++ [.keyPressed true 0]

theorem key_delivery_left :
    chain.log returned (initial 0 0) leftPress = [48] ∧
      ((chain.log returned (initial 0 0) leftPress).filter fun k => k ≠ 0).Sublist
        (((chain.log latched (initial 0 0) leftPress).filter fun s => s ≠ 0).map
          fun s => 0x20 ||| s) := by
  obtain ⟨c, hrun⟩ : ∃ c, chain.run (initial 0 0) leftPress = some c := ⟨_, rfl⟩
  exact ⟨by decide +kernel, (key_delivery hrun).1⟩

end Run

/-! ### Presses that are far enough apart -/

/-- Nothing is on its way, and both programs wait for something to do. -/
structure Resting (c : Chain) : Prop where
  test : c.arduino.pc = .test
  state : c.arduino.state = 0
  serial : c.serial = []
  usbTask : c.relay.pc = .usbTask
  stateSend : c.relay.stateSend = false
  bank : c.relay.bank = []
  usb : c.usb = []

/-- The ATmega328p takes the time that it needs for a press. -/
def sending (pind : UInt8) : List ArduinoInput := .pcint2 pind :: List.replicate 6 (.main true)

/-- The ATmega16u2 takes the time that it needs for a byte. The OUT endpoint has nothing for it
meanwhile. -/
def passing : List (Bool × UInt8) := List.replicate 7 (true, 0) ++ [(false, 0)]

def unhurried (pind : UInt8) : List ChainInput :=
  (sending pind).map .arduino ++ .usart1Rx :: passing.map fun x => .relay x.1 x.2

section Unhurried

variable {c : Chain} {pind : UInt8}

/-- While only the ATmega328p takes steps, the chain does what it does. -/
lemma run_arduino {is : List ArduinoInput} {a : Arduino}
    (h : Arduino.arduino.run c.arduino is = some a) : chain.run c (is.map .arduino) = some { c with
      arduino := a, serial := c.serial ++ Arduino.arduino.log Arduino.sent c.arduino is } := by
  refine Machine.run_induction (M := Arduino.arduino) (P := fun is a =>
    chain.run c (is.map .arduino) = some { c with
      arduino := a, serial := c.serial ++ Arduino.arduino.log Arduino.sent c.arduino is }) ?_ ?_ h
  · simp
  · intro is a i a' hrun ih hstep
    obtain rfl : a.step i = a' := Option.some_inj.1 hstep
    rw [List.map_append, Machine.run_append, ih, Machine.log_snoc _ hrun, ← List.append_assoc]
    rfl

/-- While only the ATmega16u2 takes steps, the chain does what it does. -/
lemma run_relay (is : List (Bool × UInt8)) {r : Relay}
    (h : Relay.relay.run c.relay (is.map fun x => .main x.1 x.2) = some r) :
    chain.run c (is.map fun x => .relay x.1 x.2) = some { c with
      relay := r
      usb := c.usb ++ Relay.relay.log Relay.sent c.relay (is.map fun x => .main x.1 x.2) } := by
  induction is using List.reverseRecOn generalizing r with
  | nil =>
    obtain rfl := Option.some_inj.1 h
    simp
  | append_singleton is x ih =>
    rw [List.map_append] at h
    obtain ⟨r', hr', hstep⟩ := Machine.run_snoc_eq_some.1 h
    obtain rfl : r'.step (.main x.1 x.2) = r := Option.some_inj.1 hstep
    rw [List.map_append, List.map_append, List.map_singleton, List.map_singleton,
      Machine.run_append, ih hr', Machine.log_snoc _ hr', ← List.append_assoc]
    rfl

lemma message_ne (pind : UInt8) (h : snapshot pind ≠ 0) : message (snapshot pind) ≠ 0x20 := by
  have hall : ∀ b : BitVec 8, snapshot ⟨b⟩ ≠ 0 → message (snapshot ⟨b⟩) ≠ 0x20 := by
    decide +kernel
  exact hall pind.toBitVec h

lemma run_sending (h : snapshot pind ≠ 0) (msg : UInt8) :
    Arduino.arduino.run ⟨.test, 0, msg⟩ (sending pind) = some ⟨.test, 0, message (snapshot pind)⟩ ∧
      Arduino.arduino.log Arduino.sent ⟨.test, 0, msg⟩ (sending pind) =
        [message (snapshot pind)] := by
  have hm := message_ne pind h
  constructor
  · simp [sending, List.replicate, Machine.run, Arduino.arduino, Arduino.step, h, hm]
  · simp [sending, List.replicate, Machine.log, Machine.trace, Arduino.arduino, Arduino.step,
      Arduino.sent, h, hm]

lemma Resting.run_unhurried (hc : Resting c) (h : snapshot pind ≠ 0) :
    ∃ c', Resting c' ∧
      chain.run c (unhurried pind) = some { c' with usb := [message (snapshot pind)] } := by
  obtain ⟨⟨pc, state, msg⟩, serial, ⟨rpc, data, stateSend, led, bank⟩, usb⟩ := c
  obtain ⟨hpc, hstate, hserial, hrpc, hsend, hbank, husb⟩ := hc
  obtain rfl : pc = .test := hpc
  obtain rfl : state = 0 := hstate
  obtain rfl : serial = [] := hserial
  obtain rfl : rpc = .usbTask := hrpc
  obtain rfl : stateSend = false := hsend
  obtain rfl : bank = [] := hbank
  obtain rfl : usb = [] := husb
  obtain ⟨hrun, hlog⟩ := run_sending h msg
  have harduino := run_arduino (c := ⟨⟨.test, 0, msg⟩, [], ⟨.usbTask, data, false, led, []⟩, []⟩) hrun
  have hrelay := run_relay passing (c := ⟨⟨.test, 0, message (snapshot pind)⟩, [],
    ⟨.usbTask, message (snapshot pind), true, led, []⟩, []⟩) rfl
  refine ⟨⟨⟨.test, 0, message (snapshot pind)⟩, [],
    ⟨.usbTask, message (snapshot pind), false, led, []⟩, []⟩, by constructor <;> rfl, ?_⟩
  rw [unhurried, Machine.run_append, harduino, hlog]
  exact hrelay

/-- The host then asks for a key. -/
def session (pind : UInt8) : List ChainInput := unhurried pind ++ [.keyPressed true 0]

/-- **One press comes through**, and the chain is at rest again. -/
lemma Resting.session (hc : Resting c) (h : snapshot pind ≠ 0) :
    (∃ c', chain.run c (session pind) = some c' ∧ Resting c') ∧
      chain.log returned c (Chain.session pind) = [message (snapshot pind)] := by
  obtain ⟨c', hc', hrun⟩ := hc.run_unhurried h
  constructor
  · refine ⟨c', ?_, hc'⟩
    rw [Chain.session, Machine.run_append, hrun]
    obtain ⟨arduino, serial, relay, usb⟩ := c'
    obtain rfl : usb = [] := hc'.usb
    rfl
  · have hnil : chain.log returned c (unhurried pind) = [] := by
      refine Machine.log_eq_nil fun e he s => ?_
      rcases List.mem_append.1 he with he | he
      · obtain ⟨i, -, rfl⟩ := List.mem_map.1 he
        rfl
      · rcases List.mem_cons.1 he with rfl | he
        · rfl
        · obtain ⟨x, -, rfl⟩ := List.mem_map.1 he
          rfl
    rw [Chain.session, Machine.log_append _ hrun, hnil, Machine.log_singleton]
    rfl

/-- **Presses that are far enough apart all come through.** From any state of rest, if every press
is followed by the steps that it needs, `key_pressed` returns the keys of all of them, each once and
in order. -/
theorem unhurried_presses_delivered (hc : Resting c) (pinds : List UInt8)
    (h : ∀ pind ∈ pinds, snapshot pind ≠ 0) :
    (∃ c', chain.run c (pinds.flatMap session) = some c' ∧ Resting c') ∧
      chain.log returned c (pinds.flatMap session) =
        pinds.map fun pind => message (snapshot pind) := by
  induction pinds generalizing c with
  | nil => exact ⟨⟨c, rfl, hc⟩, rfl⟩
  | cons pind pinds ih =>
    obtain ⟨⟨c₁, hrun, hc₁⟩, hlog⟩ := hc.session (h pind List.mem_cons_self)
    obtain ⟨⟨c₂, hrun', hc₂⟩, hlog'⟩ := ih hc₁ fun p hp => h p (List.mem_cons_of_mem _ hp)
    rw [List.flatMap_cons]
    constructor
    · refine ⟨c₂, ?_, hc₂⟩
      rw [Machine.run_append, hrun]
      exact hrun'
    · rw [Machine.log_append _ hrun, hlog, hlog', List.map_cons]
      rfl

theorem unhurried_presses_delivered_two :
    chain.log returned (initial 0 0) ([0xFB, 0xBF].flatMap session) = [33, 48] := by
  have hrest : Resting (initial 0 0) := by constructor <;> rfl
  have hpressed : ∀ pind ∈ ([0xFB, 0xBF] : List UInt8), snapshot pind ≠ 0 :=
    List.forall_mem_cons.2 ⟨by decide, List.forall_mem_singleton.2 (by decide)⟩
  exact (unhurried_presses_delivered hrest [0xFB, 0xBF] hpressed).2

end Unhurried

end Chain

end UsbJoystick.Pad
