import UsbJoystick.System.Defs

/-!
From the buttons to the snake.

The keys that the game reads are, in order, among the messages of the snapshots that the pin change
interrupt has latched; this is the flow of the chain, seen from the system. Of the keys that the
game reads, only those of `keyPressed` are orders to turn, and `set_dir` executes an order once or,
when the pause menu is left with `QUIT`, never. So the orders too flow through a stage that invents,
duplicates and reorders nothing (`flow_orders`), and the two stages stand in series: every turn of
player 1 goes back to a snapshot of its own that shows one direction button alone.

There is a snapshot at every pin change, when a button is let go as well as when it is pressed. If
a button is held while another goes down and up, the second change shows the first button alone once
more, and the snake is told to turn again. Such snapshots are presses (`presses`) when the buttons
are used one at a time.
-/

namespace UsbJoystick

open Lib Snake Pad

/-! ### The orders of player 1 -/

/-- The order to turn that a byte from the joystick stands for. -/
def keyOrder (key : UInt8) : Option Dir := keyDir .one key.toNat

namespace Snake

def orders (c : Config) (e : Input) : List Dir := (reads .key c e).filterMap keyOrder

/-- The order that `set_dir` executes. -/
def turns (c : Config) (_ : Input) : List Dir :=
  if c.pc = .setDir .one then (keyDir .one c.game.ch).toList else []

/-- The order that has been read and not executed yet. -/
def order (c : Config) : List Dir :=
  match c.pc with
  | .getch | .pause | .quitOpen | .quitDisp _ | .setDir .one => (keyDir .one c.game.ch).toList
  | _ => []

section Step

variable {c c' : Config} {e : Input}

/-- Where the order is: it is read by `keyPressed`, waits, and is gone after `set_dir`. -/
lemma next_order {n : ℕ} (h : next n c.pc c'.pc) (hch : c'.game.ch = c.game.ch)
    (hpc : c.pc ≠ .keyPressed) (hpc' : c.pc ≠ .setDir .one) : (order c').Sublist (order c) := by
  obtain ⟨pc, g⟩ := c
  obtain ⟨pc', g'⟩ := c'
  have hdir : keyDir .one g'.ch = keyDir .one g.ch := by rw [show g'.ch = g.ch from hch]
  unfold next at h
  unfold order
  split at h <;> grind

/-- **The game invents, duplicates and reorders no orders.** -/
theorem flow_orders (h : step c e = some c') :
    Flow (order c) (orders c e) (turns c e) (order c') := by
  by_cases hread : c.pc = .keyPressed
  · obtain ⟨pc, g⟩ := c
    obtain rfl : pc = .keyPressed := hread
    obtain rfl := Option.some_inj.1 h
    have horders : orders ⟨.keyPressed, g⟩ e = (keyOrder e.key).toList := by
      cases hk : keyOrder e.key <;> simp [orders, reads, hk]
    rw [horders]
    exact Flow.enqueue
  · have hch : c'.game.ch = c.game.ch := (step_keeps h).key .one hread
    by_cases hturn : c.pc = .setDir .one
    · obtain ⟨pc, g⟩ := c
      obtain rfl : pc = .setDir .one := hturn
      obtain rfl := Option.some_inj.1 h
      exact Flow.flush
    · have hout : turns c e = [] := if_neg hturn
      rw [hout]
      have hkept := next_order (step_next h) hch hread hturn
      exact hkept.trans (List.sublist_append_left _ _)

end Step

end Snake

/-! ### The buttons -/

/-- The pin of a direction button: `D6` left, `D3` right, `D4` up, `D5` down. -/
def button : Dir → UInt8
  | .left => 0x40
  | .right => 0x08
  | .up => 0x10
  | .down => 0x20

/-- The direction button that is down alone, of the five buttons of the joystick. A button that is
down pulls its pin to zero. -/
def downAlone (pind : UInt8) : Option Dir :=
  if ~~~pind &&& 0x7C = button .left then some .left
  else if ~~~pind &&& 0x7C = button .right then some .right
  else if ~~~pind &&& 0x7C = button .up then some .up
  else if ~~~pind &&& 0x7C = button .down then some .down
  else none

/-- The presses of one direction button alone: it was up before, and now it is down. -/
def presses : UInt8 → List UInt8 → List Dir
  | _, [] => []
  | before, pind :: rest =>
    ((downAlone pind).filter fun d => before &&& button d ≠ 0).toList ++ presses pind rest

/-- A button goes down when no other is down, and is let go before the next one. -/
def OneAtATime (pins : List UInt8) : Prop :=
  pins.IsChain fun before pind => snapshot before = 0 ∨ snapshot pind = 0

instance (pins : List UInt8) : Decidable (OneAtATime pins) :=
  inferInstanceAs (Decidable (List.IsChain _ pins))

/-- With no button down, every direction button is up, and none is down alone. -/
lemma snapshot_eq_zero {pind : UInt8} (h : snapshot pind = 0) :
    (∀ d, pind &&& button d ≠ 0) ∧ downAlone pind = none := by
  have hall : ∀ b : BitVec 8, snapshot ⟨b⟩ = 0 → (⟨b⟩ &&& button .left ≠ (0 : UInt8) ∧
      ⟨b⟩ &&& button .right ≠ (0 : UInt8) ∧ ⟨b⟩ &&& button .up ≠ (0 : UInt8) ∧
      ⟨b⟩ &&& button .down ≠ (0 : UInt8)) ∧ downAlone ⟨b⟩ = none := by decide +kernel
  obtain ⟨⟨hleft, hright, hup, hdown⟩, hnone⟩ := hall pind.toBitVec h
  refine ⟨fun d => ?_, hnone⟩
  cases d
  · exact hup
  · exact hdown
  · exact hright
  · exact hleft

/-- Then every snapshot that shows a direction button alone is a press. -/
lemma presses_eq {before : UInt8} {pins : List UInt8} (h : OneAtATime (before :: pins)) :
    presses before pins = pins.filterMap downAlone := by
  induction pins generalizing before with
  | nil => rfl
  | cons pind rest ih =>
    obtain ⟨hhead, hrest⟩ := List.isChain_cons_cons.1 h
    rw [presses, ih hrest, List.filterMap_cons]
    rcases hhead with hbefore | hnow
    · obtain ⟨hup, -⟩ := snapshot_eq_zero hbefore
      cases downAlone pind with
      | none => rfl
      | some d =>
        rw [Option.filter_some_pos (by simpa using hup d)]
        rfl
    · rw [(snapshot_eq_zero hnow).2]
      rfl

/-- **The key codes of the game are those of the buttons.** -/
lemma keyOrder_message (pind : UInt8) :
    keyOrder (message (snapshot pind)) = downAlone pind := by
  have h : ∀ b : BitVec 8, keyOrder (message (snapshot ⟨b⟩)) = downAlone ⟨b⟩ := by
    decide +kernel
  exact h pind.toBitVec

namespace System

/-- The values of `PIND` at the pin change interrupts, whether a button goes down or up. -/
def pins (_ : System) : SystemInput → List UInt8
  | .wire (.arduino (.pcint2 pind)) => [pind]
  | _ => []

def keysRead (s : System) : SystemInput → List UInt8
  | .game transfers data e => reads .key s.game (s.input transfers data e)
  | _ => []

/-- The turns that the game has told the snake of player 1 to make. -/
def turnsTaken (s : System) : SystemInput → List Dir
  | .game transfers data e => turns s.game (s.input transfers data e)
  | _ => []

section Run

variable {arg : List Char} {ch2 : ℤ} {msg ledReport : UInt8} {es : List SystemInput} {s s' : System}
  {i : SystemInput}

lemma log_latched :
    Chain.chain.log Chain.latched s.chain (s.toChain i) = (s.pins i).map snapshot := by
  cases i with
  | game transfers data e =>
    simp only [toChain]
    split_ifs <;> rfl
  | wire j =>
    rw [toChain, Machine.log_singleton]
    cases j with
    | arduino k => cases k <;> rfl
    | _ => rfl
  | _ => rfl

lemma log_returned :
    Chain.chain.log Chain.returned s.chain (s.toChain i) = s.keysRead i := by
  cases i with
  | game transfers data e =>
    simp only [toChain, keysRead, reads_key]
    split_ifs
    · rw [Machine.log_singleton]
      rfl
    · rfl
  | wire j =>
    rw [toChain, Machine.log_singleton]
    cases j <;> rfl
  | _ => rfl

lemma log_turns (h : s.step i = some s') :
    main.log turns s.game (s.toMain i) = s.turnsTaken i := by
  cases step_turn h with
  | game transfers data e g _ hstep => exact Machine.log_singleton turns
  | _ => rfl

lemma log_orders (h : s.step i = some s') :
    main.log orders s.game (s.toMain i) = (s.keysRead i).filterMap keyOrder := by
  cases step_turn h with
  | game transfers data e g _ hstep => exact Machine.log_singleton orders
  | _ => rfl

/-- **The keys come from the buttons.** -/
theorem run_keysRead (hrun : system.run (initial arg ch2 msg ledReport) es = some s) :
    (Chain.keys (system.log keysRead (initial arg ch2 msg ledReport) es)).Sublist
      (Arduino.messages ((system.log pins (initial arg ch2 msg ledReport) es).map snapshot)) := by
  have hkeep : ∀ (s : System) (c : Chain) (i : SystemInput) (s' : System), c = s.chain →
      system.step s i = some s' →
      ∃ c', Chain.chain.run c (s.toChain i) = some c' ∧ c' = s'.chain :=
    fun s _ i s' hR h => ⟨s'.chain, hR ▸ step_chain h, rfl⟩
  have hflow := Flow.log Chain.held (fun _ _ _ h => Chain.flow h) (run_chain hrun)
  rw [Chain.keys_log, Chain.messages_log] at hflow
  have hread : Chain.chain.log Chain.returned (Chain.initial msg ledReport)
      (system.log toChain (initial arg ch2 msg ledReport) es) =
        system.log keysRead (initial arg ch2 msg ledReport) es :=
    Machine.log_sim hkeep (fun s _ i _ hR _ => hR ▸ log_returned) rfl hrun
  have hlatched : Chain.chain.log Chain.latched (Chain.initial msg ledReport)
      (system.log toChain (initial arg ch2 msg ledReport) es) =
        system.log (fun s i => (s.pins i).map snapshot) (initial arg ch2 msg ledReport) es :=
    Machine.log_sim hkeep (fun s _ i _ hR _ => hR ▸ log_latched) rfl hrun
  have hmap : system.log (fun s i => (s.pins i).map snapshot) (initial arg ch2 msg ledReport) es =
      (system.log pins (initial arg ch2 msg ledReport) es).map snapshot := by
    simp [Machine.log, List.map_flatMap]
  rw [hread, hlatched, hmap] at hflow
  exact hflow.sublist

/-- **The turns come from the keys.** -/
theorem run_turnsTaken (hrun : system.run (initial arg ch2 msg ledReport) es = some s) :
    (system.log turnsTaken (initial arg ch2 msg ledReport) es).Sublist
      ((system.log keysRead (initial arg ch2 msg ledReport) es).filterMap keyOrder) := by
  have hkeep : ∀ (s : System) (c : Config) (i : SystemInput) (s' : System), c = s.game →
      system.step s i = some s' → ∃ c', main.run c (s.toMain i) = some c' ∧ c' = s'.game :=
    fun s _ i s' hR h => ⟨s'.game, hR ▸ step_main h, rfl⟩
  have hflow := Flow.log order (fun _ _ _ h => flow_orders h) (run_main hrun)
  have hturns : main.log turns (Snake.initial arg ch2)
      (system.log toMain (initial arg ch2 msg ledReport) es) =
        system.log turnsTaken (initial arg ch2 msg ledReport) es :=
    Machine.log_sim hkeep (fun s _ i _ hR h => hR ▸ log_turns h) rfl hrun
  have horders : main.log orders (Snake.initial arg ch2)
      (system.log toMain (initial arg ch2 msg ledReport) es) =
        system.log (fun s i => (s.keysRead i).filterMap keyOrder)
          (initial arg ch2 msg ledReport) es :=
    Machine.log_sim hkeep (fun s _ i _ hR h => hR ▸ log_orders h) rfl hrun
  have hfilter : system.log (fun s i => (s.keysRead i).filterMap keyOrder)
      (initial arg ch2 msg ledReport) es =
        (system.log keysRead (initial arg ch2 msg ledReport) es).filterMap keyOrder := by
    simp [Machine.log, List.filterMap_flatMap]
  rw [hturns, horders, hfilter] at hflow
  exact hflow.sublist

/-- No key, no order. -/
lemma filterMap_keys (l : List UInt8) : (Chain.keys l).filterMap keyOrder = l.filterMap keyOrder := by
  induction l with
  | nil => rfl
  | cons k l ih =>
    by_cases hk : k = 0
    · subst hk
      exact ih
    · rw [Chain.keys, List.filter_cons_of_pos (by simpa using hk), List.filterMap_cons,
        List.filterMap_cons, ← ih]
      rfl

/-- The orders in the messages of some snapshots are the buttons that they show alone. -/
lemma filterMap_messages (l : List UInt8) :
    (Arduino.messages (l.map snapshot)).filterMap keyOrder = l.filterMap downAlone := by
  induction l with
  | nil => rfl
  | cons pind l ih =>
    rw [List.map_cons, List.filterMap_cons, ← keyOrder_message, ← ih]
    by_cases h0 : snapshot pind = 0
    · have hnone : keyOrder (message (snapshot pind)) = none := by rw [h0]; rfl
      rw [hnone, Arduino.messages, List.filter_cons_of_neg (by simpa using h0)]
      rfl
    · rw [Arduino.messages, List.filter_cons_of_pos (by simpa using h0), List.map_cons,
        List.filterMap_cons]
      rfl

end Run

/-- The button of the menu is pressed and let go, and in the first frame the left one is pressed. -/
def leftTurn : List SystemInput :=
  press 0xFB ++ play 5 ++ .wire (.arduino (.pcint2 0xFF)) :: press 0xBF ++ play 5

end System

end UsbJoystick
