import UsbJoystick.System.Defs

/-!
From the pause menu to the LED.

A command goes from `usb_send` into the bank of the OUT endpoint, from there through the main loop
of the ATmega16u2 onto the serial line, and into the receiver of the ATmega328p. The bank is
released only after its byte has been sent on, so `usb_send` cannot overwrite it (`Banked`), and
the way is lossless but for transfers that time out and bytes lost on the line (`pipe_step`).

Then the game and the LED are two ends of one queue. The game sends every command twice, which is
what the handler of the LED needs (`Led.follows_of_doubled`). So when everything that was sent has
been handled, the LED is on exactly if the game is paused.
-/

namespace UsbJoystick

open Lib Snake Pad

namespace System

/-- What the ATmega16u2 has of a command: the byte in the bank until it is read, then `LEDReport`
until it is sent. After that the bank is going to be released. -/
def relayed (s : System) : List UInt8 :=
  match s.chain.relay.pc with
  | .outSend => [s.chain.relay.ledReport]
  | .clearOUT => []
  | _ => s.out.toList

/-- The commands on their way to the receiver of the LED, oldest first. -/
def underWay (s : System) : List UInt8 := s.line ++ (s.relayed ++ s.outbox)

/-- The bank stays filled while `ReceiveNextReport` is at work on it. -/
def Banked (s : System) : Prop :=
  match s.chain.relay.pc with
  | .outReady | .outRead | .outSend | .clearOUT => s.out.isSome
  | _ => True

/-- The bytes that the game sends in a step. -/
def sent (s : System) (i : SystemInput) : List UInt8 :=
  (s.step i).elim [] fun s' => s'.game.game.usbOut.drop s.game.game.usbOut.length

/-- The bytes that the receiver of the LED takes in. -/
def received (s : System) : SystemInput → List UInt8
  | .usartRx => s.line.take 1
  | _ => []

/-- No transfer times out, and no byte is lost on the serial line. -/
def Lossless (_ : System) : SystemInput → Prop
  | .usbSend delivered => delivered = true
  | .lineLoss _ => False
  | _ => True

section Step

variable {s s' : System} {i : SystemInput}

lemma relay_wire {c c' : Chain} {j : WireInput} (h : c.step j.toChain = some c') :
    c'.relay.pc = c.relay.pc ∧ c'.relay.ledReport = c.relay.ledReport := by
  cases j with
  | usart1Rx =>
    obtain ⟨arduino, serial, relay, usb⟩ := c
    cases serial with
    | nil => cases h
    | cons b rest =>
      obtain rfl := Option.some_inj.1 h
      exact ⟨rfl, rfl⟩
  | _ =>
    obtain rfl := Option.some_inj.1 h
    exact ⟨rfl, rfl⟩

lemma relay_heard (s : System) (transfers : Bool) (data : UInt8) :
    (s.heard transfers data).relay = s.chain.relay := by
  unfold heard
  split_ifs <;> rfl

lemma usbOut_step (h : s.step i = some s') :
    s'.game.game.usbOut = s.game.game.usbOut ++ s.sent i := by
  rw [sent, h]
  cases step_turn h with
  | game transfers data e g _ hstep =>
    show g.game.usbOut = s.game.game.usbOut ++ g.game.usbOut.drop s.game.game.usbOut.length
    rw [step_usbOut hstep, List.drop_left]
  | _ => simp

/-- The main loop of the ATmega16u2 hands a command on. -/
lemma pipe_relay (hb : s.Banked) (yes : Bool) (c : Chain)
    (hstep : s.chain.step (.relay (s.answer yes) (s.out.getD 0)) = some c) :
    Pipe s.relayed [] (s.sentLine yes) (relayed ⟨s.game, s.outbox, c,
      if s.chain.relay.pc = .clearOUT then none else s.out, s.line ++ s.sentLine yes, s.led⟩) := by
  obtain ⟨g, outbox, ⟨arduino, serial, ⟨pc, dataSend, stateSend, led, bank⟩, usb⟩, out, line, l⟩ := s
  obtain rfl := Option.some_inj.1 hstep
  cases pc with
  | outReceived =>
    cases out <;> exact Pipe.idle
  | outReady =>
    obtain ⟨b, rfl⟩ := Option.isSome_iff_exists.1 hb
    exact Pipe.idle
  | outRead =>
    obtain ⟨b, rfl⟩ := Option.isSome_iff_exists.1 hb
    exact Pipe.idle
  | outSend =>
    cases yes
    · exact Pipe.idle
    · exact Pipe.dequeue
  | clearOUT => exact Pipe.idle
  | padTask | ready => cases yes <;> exact Pipe.idle
  | testSend => cases stateSend <;> exact Pipe.idle
  | _ => exact Pipe.idle

/-- **The bank is never overwritten.** -/
theorem Banked.step (hb : s.Banked) (h : s.step i = some s') : s'.Banked := by
  have same : ∀ {c : Chain} {g line outbox led}, c.relay.pc = s.chain.relay.pc →
      Banked ⟨g, outbox, c, s.out, line, led⟩ := by
    intro c g line outbox led hpc
    unfold Banked at *
    rwa [hpc]
  cases step_turn h with
  | game transfers data e g _ _ => exact same (by rw [relay_heard])
  | deliver b rest _ _ =>
    unfold Banked
    split <;> trivial
  | wire j c hstep => exact same (relay_wire hstep).1
  | relay yes c hstep =>
    obtain ⟨g, outbox, ⟨arduino, serial, ⟨pc, dataSend, stateSend, led, bank⟩, usb⟩, out, line, l⟩ :=
      s
    obtain rfl := Option.some_inj.1 hstep
    cases pc with
    | outReceived => cases out <;> trivial
    | outReady =>
      obtain ⟨b, rfl⟩ := Option.isSome_iff_exists.1 hb
      trivial
    | outRead => exact hb
    | outSend => cases yes <;> exact hb
    | padTask | ready => cases yes <;> trivial
    | testSend => cases stateSend <;> trivial
    | _ => trivial
  | timeout | lineLoss | usartRx | isr => exact same rfl

lemma sent_eq (h : s.step i = some s') :
    s.sent i = s'.game.game.usbOut.drop s.game.game.usbOut.length := by
  rw [sent, h]
  rfl

/-- A step of another part sends nothing. -/
lemma sent_eq_nil (h : s.step i = some s') (hg : s'.game = s.game) : s.sent i = [] := by
  rw [sent_eq h, hg, List.drop_length]

lemma relayed_eq {c : Chain} {g : Config} {line outbox : List UInt8} {led : Led}
    (hpc : c.relay.pc = s.chain.relay.pc) (hled : c.relay.ledReport = s.chain.relay.ledReport) :
    relayed ⟨g, outbox, c, s.out, line, led⟩ = s.relayed := by
  unfold relayed
  rw [hpc, hled]

/-- While the bank is empty the ATmega16u2 has nothing of a command. -/
lemma relayed_of_free (b : UInt8) (rest : List UInt8) (hb : s.Banked) (free : s.out = none) :
    s.relayed = [] ∧ relayed ⟨s.game, rest, s.chain, some b, s.line, s.led⟩ = [b] := by
  obtain ⟨g, outbox, ⟨arduino, serial, ⟨pc, dataSend, stateSend, led, bank⟩, usb⟩, out, line, l⟩ := s
  obtain rfl : out = none := free
  cases pc with
  | outReady | outRead | outSend | clearOUT => cases hb
  | _ => exact ⟨rfl, rfl⟩

/-- **A lossless step.** -/
theorem pipe_step (hb : s.Banked) (h : s.step i = some s') (hi : s.Lossless i) :
    Pipe s.underWay (s.sent i) (s.received i) s'.underWay := by
  cases step_turn h with
  | game transfers data e g idle hstep =>
    have hsent : s.sent (.game transfers data e) = sends s.game.pc g.pc := by
      rw [sent_eq h, step_usbOut hstep]
      exact List.drop_left
    have hrelayed : relayed ⟨g, sends s.game.pc g.pc, s.heard transfers data, s.out, s.line, s.led⟩
        = s.relayed := relayed_eq (by rw [relay_heard]) (by rw [relay_heard])
    rw [underWay, underWay, hsent, hrelayed, idle]
    exact (Pipe.enqueue.series Pipe.idle).series Pipe.idle
  | deliver b rest calls free =>
    obtain ⟨hnil, hfull⟩ := relayed_of_free b rest hb free
    rw [underWay, underWay, sent_eq_nil h rfl, hnil, hfull, calls]
    exact (Pipe.dequeue.series Pipe.enqueue).series Pipe.idle
  | timeout b rest calls => cases hi
  | wire j c hstep =>
    obtain ⟨hpc, hled⟩ := relay_wire hstep
    rw [underWay, underWay, sent_eq_nil h rfl, relayed_eq hpc hled]
    exact Pipe.idle
  | relay yes c hstep =>
    rw [underWay, underWay, sent_eq_nil h rfl]
    exact (Pipe.idle.series (pipe_relay hb yes c hstep)).series Pipe.enqueue
  | lineLoss k => exact hi.elim
  | usartRx b rest command led line byte hstep =>
    rw [underWay, underWay, sent_eq_nil h rfl, received, line]
    exact (Pipe.idle.series Pipe.idle).series Pipe.dequeue
  | isr floating led hstep =>
    rw [sent_eq_nil h rfl]
    exact Pipe.idle

/-- **Any step** may lose commands, and does nothing else to them. -/
theorem flow_step (hb : s.Banked) (h : s.step i = some s') :
    Flow s.underWay (s.sent i) (s.received i) s'.underWay := by
  cases step_turn h with
  | timeout b rest calls =>
    have hlose : rest.Sublist s.outbox := by rw [calls]; exact List.sublist_cons_self b rest
    rw [sent_eq_nil h rfl]
    exact ((Flow.lose hlose).series Flow.idle).series Flow.idle
  | lineLoss k =>
    rw [sent_eq_nil h rfl]
    exact (Flow.idle.series Flow.idle).series (Flow.eraseIdx k)
  | deliver => exact (pipe_step hb h rfl).flow
  | _ => exact (pipe_step hb h trivial).flow

end Step

/-! ### Runs -/

section Run

variable {arg : List Char} {ch2 : ℤ} {msg ledReport : UInt8} {es : List SystemInput} {s : System}

lemma run_banked (hrun : system.run (initial arg ch2 msg ledReport) es = some s) : s.Banked :=
  Machine.run_inv (I := Banked) (show Banked (initial arg ch2 msg ledReport) from trivial)
    (fun _ _ _ hb h => hb.step h) hrun

/-- The calls of `usb_send` are what the game has sent. -/
lemma run_sent (hrun : system.run (initial arg ch2 msg ledReport) es = some s) :
    system.log sent (initial arg ch2 msg ledReport) es = s.game.game.usbOut :=
  Machine.log_inv (R := fun l s => l = s.game.game.usbOut) rfl
    (fun _ _ _ _ hl h => by rw [hl, usbOut_step h]) hrun

lemma run_flow (hrun : system.run (initial arg ch2 msg ledReport) es = some s) :
    Flow [] s.game.game.usbOut (system.log received (initial arg ch2 msg ledReport) es)
      s.underWay := by
  have hflow : s.Banked ∧ Flow [] s.game.game.usbOut
      (system.log received (initial arg ch2 msg ledReport) es) s.underWay := by
    refine Machine.log_inv (R := fun l s => Banked s ∧ Flow [] s.game.game.usbOut l s.underWay)
      ⟨trivial, Flow.idle⟩ ?_ hrun
    rintro l s i s' ⟨hb, hflow⟩ hstep
    refine ⟨hb.step hstep, ?_⟩
    rw [usbOut_step hstep]
    exact hflow.andThen (flow_step hb hstep)
  exact hflow.2

lemma run_pipe (hC : system.Along Lossless (initial arg ch2 msg ledReport) es)
    (hrun : system.run (initial arg ch2 msg ledReport) es = some s) :
    system.log received (initial arg ch2 msg ledReport) es ++ s.underWay =
      s.game.game.usbOut := by
  rw [← run_sent hrun]
  exact Pipe.log underWay (fun _ _ _ _ hrun hi h => pipe_step (run_banked hrun) h hi) hC hrun

end Run

/-! ### The LED and the pause menu -/

/-- The commands of `n` complete pauses, once each. -/
def pauses (n : ℕ) : List Command := (List.replicate n [Command.on, .off]).flatten

/-- The bytes of some commands that are sent twice. -/
def twice (ds : List Command) : List UInt8 := (ds.flatMap fun d => [d, d]).map Command.byte

lemma twice_append (ds ds' : List Command) : twice (ds ++ ds') = twice ds ++ twice ds' := by
  simp [twice]

lemma twice_pauses (n : ℕ) : twice (pauses n) = (List.replicate n [49, 49, 48, 48]).flatten := by
  induction n with
  | zero => rfl
  | succ n ih =>
    have hsucc : pauses (n + 1) = [.on, .off] ++ pauses n := by simp [pauses, List.replicate_succ]
    rw [hsucc, twice_append, ih, List.replicate_succ, List.flatten_cons]
    rfl

lemma pauses_getLast? (n : ℕ) : (pauses n).getLast? ≠ some .on := by
  cases n with
  | zero => simp [pauses]
  | succ n => simp [pauses, List.replicate_succ']

lemma unanswered_cases (c : Config) : Paused c ∧ unanswered c = twice [.on] ∨
    ¬ Paused c ∧ ∃ ds : List Command, unanswered c = twice ds ∧ ∀ n,
      (pauses n ++ ds).getLast? ≠ some .on := by
  by_cases hhalt : c.pc = .halt
  · right
    refine ⟨by simp [Paused, hhalt], if c.game.loose = none then [.on, .off] else [.off], ?_, ?_⟩
    · rw [unanswered, if_pos hhalt]
      split_ifs <;> rfl
    · intro n
      split_ifs <;> simp
  · rw [unanswered, if_neg hhalt]
    by_cases hpaused : Paused c
    · exact Or.inl ⟨hpaused, if_pos hpaused⟩
    · refine Or.inr ⟨hpaused, [], if_neg hpaused, fun n => ?_⟩
      rw [List.append_nil]
      exact pauses_getLast? n

section Run

variable {arg : List Char} {ch2 : ℤ} {msg ledReport : UInt8} {es : List SystemInput} {s s' : System}
  {i : SystemInput}

/-- **The game sends every command twice**, and the last one says whether it is paused. -/
lemma run_twice {is : List Input} {c : Config} (hrun : main.run (Snake.initial arg ch2) is = some c) :
    ∃ ds : List Command, c.game.usbOut = twice ds ∧ (ds.getLast? = some .on ↔ Paused c) := by
  obtain ⟨n, hn⟩ := run_usbOut hrun
  rcases unanswered_cases c with ⟨hpaused, hds⟩ | ⟨hpaused, ds, hds, hlast⟩
  · refine ⟨pauses n ++ [.on], ?_, ?_⟩
    · rw [hn, hds, twice_append, twice_pauses]
    · simp [hpaused]
  · refine ⟨pauses n ++ ds, ?_, iff_of_false (hlast n) hpaused⟩
    rw [hn, hds, twice_append, twice_pauses]

/-- Nothing but commands is on the way to the LED, so that its receiver refuses nothing. -/
lemma run_commands (hrun : system.run (initial arg ch2 msg ledReport) es = some s) :
    ∀ b ∈ s.underWay, (Command.ofByte b).isSome := by
  intro b hb
  obtain ⟨ds, hds, -⟩ := run_twice (run_main hrun)
  have hmem : b ∈ s.game.game.usbOut :=
    (run_flow hrun).subset (List.mem_append_right _ hb)
  rw [hds, twice] at hmem
  obtain ⟨d, -, rfl⟩ := List.mem_map.1 hmem
  cases d <;> rfl

/-- **Commands are delivered at most once and in order, and exactly once if nothing is lost.** What
the receiver of the LED has got is among what the game has sent, in order, and what is under way to
it are commands. If no transfer has timed out and no byte been lost on the line, what it has got is
all but what is still under way. -/
theorem commands_delivered (hrun : system.run (initial arg ch2 msg ledReport) es = some s) :
    (system.log received (initial arg ch2 msg ledReport) es).Sublist s.game.game.usbOut ∧
    (∀ b ∈ s.underWay, (Command.ofByte b).isSome) ∧
    (system.Along Lossless (initial arg ch2 msg ledReport) es →
      system.log received (initial arg ch2 msg ledReport) es ++ s.underWay =
        s.game.game.usbOut) :=
  ⟨(run_flow hrun).sublist, run_commands hrun, fun hC => run_pipe hC hrun⟩

/-- No transfer times out, no byte is lost on the serial line, and a second reading of `UDR0` finds
the same byte again if there is no other. -/
def Reliable (s : System) : SystemInput → Prop
  | .usbSend delivered => delivered = true
  | .lineLoss _ => False
  | .isr floating => s.led.Echoes (.isr floating)
  | _ => True

instance (s : System) (i : SystemInput) : Decidable (s.Reliable i) := by
  unfold Reliable
  split <;> infer_instance

lemma Reliable.lossless (h : s.Reliable i) : s.Lossless i := by
  cases i with
  | usbSend delivered => exact h
  | lineLoss k => exact h.elim
  | _ => trivial

lemma byte_of_ofByte {b : UInt8} {command : Command} (h : Command.ofByte b = some command) :
    command.byte = b := by
  unfold Command.ofByte at h
  split_ifs at h with h0 h1 <;> obtain rfl := Option.some_inj.1 h
  · exact h0.symm
  · exact h1.symm

lemma log_received (h : s.step i = some s') :
    Led.led.log (fun r j => (r.received j).map Command.byte) s.led (s.toLed i) = s.received i := by
  cases step_turn h with
  | usartRx b rest command led line byte hstep =>
    have htr : s.toLed .usartRx = [.receive command] := by simp [toLed, line, byte]
    rw [htr, Machine.log_singleton, received, line]
    exact congrArg (fun b => [b]) (byte_of_ofByte byte)
  | isr floating led hstep => exact Machine.log_singleton _
  | _ => rfl

lemma along_echoes (h : s.step i = some s') (hi : s.Reliable i) :
    Led.led.Along Led.Echoes s.led (s.toLed i) := by
  cases step_turn h with
  | usartRx b rest command led line byte hstep =>
    have htr : s.toLed .usartRx = [.receive command] := by simp [toLed, line, byte]
    rw [htr]
    exact Machine.along_singleton.2 trivial
  | isr floating led hstep => exact Machine.along_singleton.2 hi
  | _ => simp [Machine.Along, toLed]

/-- What the receiver of the LED has got, as commands. -/
lemma run_received (hrun : system.run (initial arg ch2 msg ledReport) es = some s) :
    (Led.led.log Led.received (Led.initial 0)
      (system.log toLed (initial arg ch2 msg ledReport) es)).map Command.byte =
        system.log received (initial arg ch2 msg ledReport) es := by
  have hlog : Led.led.log (fun r j => (r.received j).map Command.byte) (Led.initial 0)
      (system.log toLed (initial arg ch2 msg ledReport) es) =
        system.log received (initial arg ch2 msg ledReport) es :=
    Machine.log_sim (R := fun s r => r = s.led)
      (fun s _ i s' hR h => ⟨s'.led, hR ▸ step_led h, rfl⟩)
      (fun s _ i _ hR h => hR ▸ log_received h) rfl hrun
  rw [← hlog]
  simp [Machine.log, List.map_flatMap]

lemma getLast?_flatMap_pair (ds : List Command) :
    (ds.flatMap fun d => [d, d]).getLast? = ds.getLast? := by
  rcases List.eq_nil_or_concat ds with rfl | ⟨ds, d, rfl⟩
  · rfl
  · simp

/-- **The LED shows the pause.** In a system in which no command is lost and `UDR0` keeps what was
read last, the LED is on exactly while the game is paused, whenever nothing is under way to it and
its handler has nothing left to do. -/
theorem lamp_shows_pause (hC : system.Along Reliable (initial arg ch2 msg ledReport) es)
    (hrun : system.run (initial arg ch2 msg ledReport) es = some s) (hway : s.underWay = [])
    (hpc : s.led.pc = .idle) (hfifo : s.led.fifo = []) :
    Lit s.led.portb ↔ Paused s.game := by
  obtain ⟨ds, hds, hlast⟩ := run_twice (run_main hrun)
  -- everything that was sent has been received
  have hall := run_pipe (fun x hx => (hC x hx).lossless) hrun
  rw [hway, List.append_nil, ← run_received hrun, hds, twice] at hall
  have hinj : Function.Injective Command.byte := by
    intro a b h
    cases a <;> cases b <;> first | rfl | exact absurd h (by decide)
  have hcommands := List.map_injective_iff.2 hinj hall
  have hechoes : Led.led.Along Led.Echoes (Led.initial 0)
      (system.log toLed (initial arg ch2 msg ledReport) es) :=
    Machine.along_sim (R := fun s r => r = s.led)
      (fun s _ i s' hR h => ⟨s'.led, hR ▸ step_led h, rfl⟩)
      (fun s _ i _ hR h hi => hR ▸ along_echoes h hi) rfl hC hrun
  have hfollows := Led.follows_of_doubled hechoes (run_led hrun) hpc hfifo ⟨ds, hcommands⟩
  rw [Led.Follows, hcommands, getLast?_flatMap_pair] at hfollows
  rw [hfollows, ← hlast]
  cases ds.getLast? with
  | none => exact iff_of_false (show ¬ Lit 0 by decide) (by simp)
  | some d => simp

end Run

/-- A command goes from the game to the LED. -/
def deliver : List SystemInput :=
  .usbSend true :: List.replicate 8 (.relay true) ++ [.usartRx, .isr 0, .isr 49]

/-- The game is paused in its second frame. -/
def pausing : List SystemInput :=
  press 0xFB ++ play 21 ++ press 0xFB ++ play 4 ++ deliver ++ deliver

theorem lamp_shows_pause_on : ∃ s, system.run (initial ['1'] 0 0 0) pausing = some s ∧
    s.game.pc = .quitOpen ∧ Lit s.led.portb := by
  have h : (system.run (initial ['1'] 0 0 0) pausing).map
      (fun s => (s.game.pc, s.underWay, s.led.pc, s.led.fifo)) = some (.quitOpen, [], .idle, []) := by
    decide +kernel
  obtain ⟨s, hs, hrest⟩ := Option.map_eq_some_iff.1 h
  obtain ⟨hgame, hway, hpc, hfifo⟩ : s.game.pc = .quitOpen ∧ s.underWay = [] ∧
      s.led.pc = .idle ∧ s.led.fifo = [] := by simpa using hrest
  have hC : system.Along Reliable (initial ['1'] 0 0 0) pausing := by
    unfold Machine.Along
    decide +kernel
  refine ⟨s, hs, hgame, (lamp_shows_pause hC hs hway hpc hfifo).2 ?_⟩
  rw [Paused, hgame]
  trivial

/-- Both commands of a pause have been received. -/
theorem commands_delivered_on : ∃ s, system.run (initial ['1'] 0 0 0) pausing = some s ∧
    [49, 49].Sublist s.game.game.usbOut := by
  have h : (system.run (initial ['1'] 0 0 0) pausing).isSome = true := by decide +kernel
  obtain ⟨s, hs⟩ := Option.isSome_iff_exists.1 h
  have hlog : system.log received (initial ['1'] 0 0 0) pausing = [49, 49] := by decide +kernel
  exact ⟨s, hs, hlog ▸ (commands_delivered hs).1⟩

end System

end UsbJoystick
