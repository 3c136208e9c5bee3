import UsbJoystick.Lib.Simulation
import UsbJoystick.Pad.Chain
import UsbJoystick.Pad.Led
import UsbJoystick.Snake.Joystick
import UsbJoystick.Snake.Replay

/-!
The game, the joystick, and the wires between them.

The modules of `Pad` and of `Snake` look at one program at a time, and leave open what the others
do. Here all of them are put together: `main` of the game with its calls of `key_pressed` and
`usb_send`, the ATmega16u2 with its two endpoints, the ATmega328p with its buttons and its LED, and
the two directions of the USB and of the serial line. They take their steps in any order.

* `usb_send` waits until the transfer is done or times out, so the game does not go on while
  `outbox` is not empty. The OUT endpoint has one bank of one byte; the transfer is done when the
  byte is in it, and it is not accepted before the bank has been released.
* `key_pressed` takes the next byte of the IN endpoint, or none.
* The answers that `Relay` gets at the OUT endpoint are those of the bank.

Every step of the system is a step of `main`, of the chain of the keys, of the receiver of the LED,
or of none of them, and nothing else happens to these three. So each of them goes through a run of
its own while the system goes through one (`run_main`, `run_chain`, `run_led`).
-/

namespace UsbJoystick

open Lib Snake Pad

/-- The statements that call `key_pressed`. -/
def Listens : Pc → Prop
  | .menuDisp _ | .keyPressed | .quitDisp _ => True
  | _ => False

instance (pc : Pc) : Decidable (Listens pc) := by
  unfold Listens
  split <;> infer_instance

lemma reads_key (c : Config) (e : Input) :
    reads .key c e = if Listens c.pc then [e.key] else [] := by
  obtain ⟨pc, g⟩ := c
  cases pc <;> rfl

/-- The command that a byte stands for. -/
def Pad.Command.ofByte (b : UInt8) : Option Command :=
  if b = 48 then some .off else if b = 49 then some .on else none

structure System where
  game : Config
  outbox : List UInt8 -- the calls of `usb_send` that have not returned yet
  chain : Chain
  out : Option UInt8 -- the bank of the OUT endpoint
  line : List UInt8 -- the serial line to the ATmega328p
  led : Led

/-- What happens on the way of the keys apart from the steps of the ATmega16u2 and of the game. -/
inductive WireInput where
  | arduino (i : ArduinoInput)
  | serialLoss (i : ℕ)
  | usart1Rx
  | usbLoss (i : ℕ)

def WireInput.toChain : WireInput → ChainInput
  | .arduino i => .arduino i
  | .serialLoss i => .serialLoss i
  | .usart1Rx => .usart1Rx
  | .usbLoss i => .usbLoss i

inductive SystemInput where
  /-- A step of `main`. If it calls `key_pressed`, the transfer takes the next byte, or it takes
  none and `data` keeps what it happened to hold. -/
  | game (transfers : Bool) (data : UInt8) (e : Input)
  | usbSend (delivered : Bool) -- the next call of `usb_send` returns
  | wire (i : WireInput)
  | relay (yes : Bool) -- a step of the main loop of the ATmega16u2
  | lineLoss (i : ℕ) -- a byte is lost on the serial line to the ATmega328p
  | usartRx -- the receiver of the ATmega328p takes the next byte of the line
  | isr (floating : UInt8) -- one comparison of the handler of the ATmega328p

namespace System

/-- What the step of `main` gets from the outside world. -/
def input (s : System) (transfers : Bool) (data : UInt8) (e : Input) : Input :=
  { e with key := Pad.keyPressed (Chain.transfer transfers data s.chain.usb).1 }

/-- The keys that are left on the USB. -/
def heard (s : System) (transfers : Bool) (data : UInt8) : Chain :=
  if Listens s.game.pc then
    { s.chain with usb := (Chain.transfer transfers data s.chain.usb).2 }
  else s.chain

/-- What the hardware answers to the main loop of the ATmega16u2. The two questions about the OUT
endpoint are about its bank. -/
def answer (s : System) (yes : Bool) : Bool :=
  match s.chain.relay.pc with
  | .outReceived | .outReady => s.out.isSome
  | _ => yes

/-- What the main loop of the ATmega16u2 puts on the serial line. -/
def sentLine (s : System) (yes : Bool) : List UInt8 :=
  if s.chain.relay.pc = .outSend ∧ yes = true then [s.chain.relay.ledReport] else []

def step (s : System) : SystemInput → Option System
  | .game transfers data e =>
    match s.outbox with
    | [] => (Snake.step s.game (s.input transfers data e)).map fun g =>
      { s with
        game := g
        chain := s.heard transfers data
        outbox := g.game.usbOut.drop s.game.game.usbOut.length }
    | _ :: _ => none
  | .usbSend delivered =>
    match s.outbox, s.out with
    | [], _ => none
    | b :: rest, none => some { s with outbox := rest, out := if delivered then some b else none }
    | _ :: rest, some _ => if delivered then none else some { s with outbox := rest }
  | .wire i => (s.chain.step i.toChain).map fun c => { s with chain := c }
  | .relay yes => (s.chain.step (.relay (s.answer yes) (s.out.getD 0))).map fun c =>
    { s with
      chain := c
      out := if s.chain.relay.pc = .clearOUT then none else s.out
      line := s.line ++ s.sentLine yes }
  | .lineLoss i => some { s with line := s.line.eraseIdx i }
  | .usartRx =>
    match s.line with
    | [] => none
    | b :: rest => (Command.ofByte b).bind fun command =>
      (s.led.step (.receive command)).map fun led => { s with line := rest, led := led }
  | .isr floating => (s.led.step (.isr floating)).map fun led => { s with led := led }

def system : Machine System SystemInput where
  step := step

/-- Everything at its start; `PORTB` is zero after a reset. -/
def initial (arg : List Char) (ch2 : ℤ) (msg ledReport : UInt8) : System :=
  ⟨Snake.initial arg ch2, [], Chain.initial msg ledReport, none, [], Led.initial 0⟩

/-! ### What a step can do -/

inductive Turn (s : System) : SystemInput → System → Prop
  | game (transfers : Bool) (data : UInt8) (e : Input) (g : Config) (idle : s.outbox = [])
      (hstep : Snake.step s.game (s.input transfers data e) = some g) :
    Turn s (.game transfers data e)
      ⟨g, sends s.game.pc g.pc, s.heard transfers data, s.out, s.line, s.led⟩
  | deliver (b : UInt8) (rest : List UInt8) (calls : s.outbox = b :: rest) (free : s.out = none) :
    Turn s (.usbSend true) ⟨s.game, rest, s.chain, some b, s.line, s.led⟩
  | timeout (b : UInt8) (rest : List UInt8) (calls : s.outbox = b :: rest) :
    Turn s (.usbSend false) ⟨s.game, rest, s.chain, s.out, s.line, s.led⟩
  | wire (i : WireInput) (c : Chain) (hstep : s.chain.step i.toChain = some c) :
    Turn s (.wire i) ⟨s.game, s.outbox, c, s.out, s.line, s.led⟩
  | relay (yes : Bool) (c : Chain)
      (hstep : s.chain.step (.relay (s.answer yes) (s.out.getD 0)) = some c) :
    Turn s (.relay yes) ⟨s.game, s.outbox, c,
      if s.chain.relay.pc = .clearOUT then none else s.out, s.line ++ s.sentLine yes, s.led⟩
  | lineLoss (i : ℕ) :
    Turn s (.lineLoss i) ⟨s.game, s.outbox, s.chain, s.out, s.line.eraseIdx i, s.led⟩
  | usartRx (b : UInt8) (rest : List UInt8) (command : Command) (led : Led)
      (line : s.line = b :: rest) (byte : Command.ofByte b = some command)
      (hstep : s.led.step (.receive command) = some led) :
    Turn s .usartRx ⟨s.game, s.outbox, s.chain, s.out, rest, led⟩
  | isr (floating : UInt8) (led : Led) (hstep : s.led.step (.isr floating) = some led) :
    Turn s (.isr floating) ⟨s.game, s.outbox, s.chain, s.out, s.line, led⟩

section Step

variable {s s' : System} {i : SystemInput}

/-- **`Turn` lists everything a step can do.** -/
theorem step_turn (h : s.step i = some s') : Turn s i s' := by
  obtain ⟨c, outbox, chain, out, line, led⟩ := s
  cases i with
  | game transfers data e =>
    cases outbox with
    | nil =>
      obtain ⟨g, hg, rfl⟩ := Option.map_eq_some_iff.1 h
      have hout : g.game.usbOut.drop c.game.usbOut.length = sends c.pc g.pc := by
        rw [step_usbOut hg]
        exact List.drop_left
      rw [hout]
      exact .game transfers data e g rfl hg
    | cons b rest => cases h
  | usbSend delivered =>
    cases outbox with
    | nil => cases h
    | cons b rest =>
      cases delivered <;> cases out <;> first | (cases h; done) | obtain rfl := Option.some_inj.1 h
      · exact .timeout b rest rfl
      · exact .timeout b rest rfl
      · exact .deliver b rest rfl rfl
  | wire i =>
    obtain ⟨c', hc, rfl⟩ := Option.map_eq_some_iff.1 h
    exact .wire i c' hc
  | relay yes =>
    rw [step, Option.map_eq_some_iff] at h
    obtain ⟨c', hc, rfl⟩ := h
    exact .relay yes c' hc
  | lineLoss i =>
    obtain rfl := Option.some_inj.1 h
    exact .lineLoss i
  | usartRx =>
    cases line with
    | nil => cases h
    | cons b rest =>
      obtain ⟨command, hb, h⟩ := Option.bind_eq_some_iff.1 h
      obtain ⟨led', hled, rfl⟩ := Option.map_eq_some_iff.1 h
      exact .usartRx b rest command led' rfl hb hled
  | isr floating =>
    obtain ⟨led', hled, rfl⟩ := Option.map_eq_some_iff.1 h
    exact .isr floating led' hled

end Step

/-! ### The runs of the parts -/

def toMain (s : System) : SystemInput → List Input
  | .game transfers data e => [s.input transfers data e]
  | _ => []

def toChain (s : System) : SystemInput → List ChainInput
  | .game transfers data _ =>
    if Listens s.game.pc then [.keyPressed transfers data] else []
  | .wire i => [i.toChain]
  | .relay yes => [.relay (s.answer yes) (s.out.getD 0)]
  | _ => []

def toLed (s : System) : SystemInput → List LedInput
  | .usartRx => ((s.line.head?.bind Command.ofByte).map LedInput.receive).toList
  | .isr floating => [.isr floating]
  | _ => []

section Parts

variable {s s' : System} {i : SystemInput}

lemma step_main (h : s.step i = some s') : main.run s.game (s.toMain i) = some s'.game := by
  cases step_turn h with
  | game transfers data e g _ hstep =>
    have hone : main.step s.game (s.input transfers data e) = some g := hstep
    simp [toMain, Machine.run, hone]
  | _ => rfl

lemma step_chain (h : s.step i = some s') :
    Chain.chain.run s.chain (s.toChain i) = some s'.chain := by
  have one : ∀ {j c}, s.chain.step j = some c → Chain.chain.run s.chain [j] = some c := by
    intro j c hj
    have hone : Chain.chain.step s.chain j = some c := hj
    simp [Machine.run, hone]
  cases step_turn h with
  | game transfers data e g _ _ =>
    simp only [toChain, heard]
    split_ifs
    · exact one rfl
    · rfl
  | wire i c hstep => exact one hstep
  | relay yes c hstep => exact one hstep
  | _ => rfl

lemma step_led (h : s.step i = some s') : Led.led.run s.led (s.toLed i) = some s'.led := by
  have one : ∀ {j r}, s.led.step j = some r → Led.led.run s.led [j] = some r := by
    intro j r hj
    have hone : Led.led.step s.led j = some r := hj
    simp [Machine.run, hone]
  cases step_turn h with
  | usartRx b rest command led line byte hstep =>
    have htr : s.toLed .usartRx = [.receive command] := by simp [toLed, line, byte]
    rw [htr]
    exact one hstep
  | isr floating led hstep => exact one hstep
  | _ => rfl

variable {arg : List Char} {ch2 : ℤ} {msg ledReport : UInt8} {es : List SystemInput}

/-- **The game goes through a run of `main`.** -/
theorem run_main (hrun : system.run (initial arg ch2 msg ledReport) es = some s) :
    main.run (Snake.initial arg ch2) (system.log toMain (initial arg ch2 msg ledReport) es) =
      some s.game := by
  obtain ⟨g, hg, rfl⟩ := Machine.run_sim (N := main) (R := fun s c => c = s.game)
    (fun s _ i s' hR h => ⟨s'.game, hR ▸ step_main h, rfl⟩) rfl hrun
  exact hg

/-- **The keys go through a run of the chain.** -/
theorem run_chain (hrun : system.run (initial arg ch2 msg ledReport) es = some s) :
    Chain.chain.run (Chain.initial msg ledReport)
      (system.log toChain (initial arg ch2 msg ledReport) es) = some s.chain := by
  obtain ⟨c, hc, rfl⟩ := Machine.run_sim (N := Chain.chain) (R := fun s c => c = s.chain)
    (fun s _ i s' hR h => ⟨s'.chain, hR ▸ step_chain h, rfl⟩) rfl hrun
  exact hc

/-- **The LED goes through a run of its receiver.** -/
theorem run_led (hrun : system.run (initial arg ch2 msg ledReport) es = some s) :
    Led.led.run (Led.initial 0) (system.log toLed (initial arg ch2 msg ledReport) es) =
      some s.led := by
  obtain ⟨r, hr, rfl⟩ := Machine.run_sim (N := Led.led) (R := fun s r => r = s.led)
    (fun s _ i s' hR h => ⟨s'.led, hR ▸ step_led h, rfl⟩) rfl hrun
  exact hr

end Parts

/-! ### Runs written press by press -/

/-- A press of a button that comes through to the USB. -/
def press (pind : UInt8) : List SystemInput :=
  .wire (.arduino (.pcint2 pind)) :: List.replicate 6 (.wire (.arduino (.main true))) ++
    .wire .usart1Rx :: List.replicate 8 (.relay true)

/-- The game takes `n` steps in a window of eight rows and columns. -/
def play (n : ℕ) : List SystemInput :=
  List.replicate n (.game true 0 { window := (8, 8), line := ['3'], rand := (1, 1, 0) })

end System

end UsbJoystick
