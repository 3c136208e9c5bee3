import UsbJoystick.Snake.Spawn

/-!
A game is a function of what it reads.

The outside world answers on five channels: the joystick, the keyboard, the size of the window,
the line of the second menu, and `rand()`. A run asks for an answer where its statements do, so
two runs can read the same answers at different steps. What they read is the same if it comes
from the same `World`; then a state is followed by the same states (`run_replay`).

In a game of one player the keyboard is not read, and the local `ch2` keeps what the stack held
before `main`. It is used all the same, in the test that opens the pause menu, and there it
matters whether it is 27 (`step_setCh2`).
-/

namespace UsbJoystick.Snake

open UsbJoystick.Lib

/-! ### What a step reads -/

inductive Channel where
  | key -- `key_pressed()`
  | getch -- `getch()`
  | window -- `getmaxyx`
  | line -- the line of the second menu
  | rand -- `rand()`
  deriving DecidableEq, Repr

abbrev Channel.Answer : Channel → Type
  | .key => UInt8
  | .getch => ℤ
  | .window => ℤ × ℤ
  | .line => List Char
  | .rand => ℕ

/-- What a step reads on a channel. -/
def reads : (ch : Channel) → Config → Input → List ch.Answer
  | .key, c, e =>
    match c.pc with
    | .menuDisp _ | .keyPressed | .quitDisp _ => [e.key]
    | _ => []
  | .getch, c, e => if c.pc = .getch ∧ c.game.nbPlayer = 2 then [e.getch] else []
  | .window, c, e =>
    match c.pc with
    | .getmaxyxInit | .getmaxyx | .quitOpen => [e.window]
    | _ => []
  | .line, c, e => if c.pc = .menu2Disp then [e.line] else []
  | .rand, c, e =>
    if c.pc = .bonusCreate then
      if Draws e c.game then [e.rand.1, e.rand.2.1, e.rand.2.2] else [e.rand.1]
    else []

/-- The answers of the outside world, in the order in which they are read. -/
def World : Type := (ch : Channel) → List ch.Answer

/-- What the run reads on every channel is the beginning of what the world answers. -/
def Fed (W : World) (c : Config) (es : List Input) : Prop :=
  ∀ ch, main.log (reads ch) c es <+: W ch

section Reads

variable {c : Config} {e e' : Input}

lemma draws_congr {g : Game} (h : e.rand.1 = e'.rand.1) : Draws e g ↔ Draws e' g := by
  rw [Draws, Draws, h]

lemma bonusCreate_congr {g : Game} (h : e.rand.1 = e'.rand.1)
    (hdraws : Draws e g → e.rand = e'.rand) : bonusCreate e g = bonusCreate e' g := by
  by_cases hd : Draws e g
  · simp only [bonusCreate, hdraws hd]
  · have hd' : ¬ Draws e' g := by rwa [← draws_congr h]
    by_cases hrate : g.spawningRate = 0
    · simp [bonusCreate, cRem, hrate]
    · rw [bonusCreate_of_not_draws hrate hd, bonusCreate_of_not_draws hrate hd']

/-- **A step depends on what it reads, and on nothing else.** -/
theorem step_congr (h : ∀ ch, reads ch c e = reads ch c e') : step c e = step c e' := by
  obtain ⟨pc, g⟩ := c
  cases pc with
  | menuDisp k =>
    have hkey : e.key = e'.key := List.singleton_inj.1 (h .key)
    simp only [step, menuTurn, hkey]
  | quitDisp k =>
    have hkey : e.key = e'.key := List.singleton_inj.1 (h .key)
    simp only [step, quitTurn, hkey]
  | keyPressed =>
    have hkey : e.key = e'.key := List.singleton_inj.1 (h .key)
    simp only [step, hkey]
  | getmaxyxInit | getmaxyx | quitOpen =>
    have hwindow : e.window = e'.window := List.singleton_inj.1 (h .window)
    simp only [step, Snake.getmaxyx, hwindow]
  | menu2Disp =>
    have hline : e.line = e'.line := List.singleton_inj.1 (h .line)
    simp only [step, Snake.menu2Disp, hline]
  | getch =>
    by_cases htwo : g.nbPlayer = 2
    · have hgetch := h .getch
      simp only [reads, htwo, and_self, if_true] at hgetch
      simp only [step, List.singleton_inj.1 hgetch]
    · simp only [step, if_neg htwo]
  | bonusCreate =>
    have hrand := h .rand
    simp only [reads, if_true] at hrand
    have hfirst : e.rand.1 = e'.rand.1 := by
      split_ifs at hrand <;> exact (List.cons.inj hrand).1
    simp only [step]
    rw [bonusCreate_congr hfirst]
    intro hdraws
    rw [if_pos hdraws, if_pos ((draws_congr hfirst).1 hdraws)] at hrand
    obtain ⟨-, hrest⟩ := List.cons.inj hrand
    obtain ⟨hx, hrest⟩ := List.cons.inj hrest
    exact Prod.ext hfirst (Prod.ext hx (List.cons.inj hrest).1)
  | initSnake id | scoreDisp id | snakeMove id | snakeDisp id | bonusCheck id | setDir id
  | crashSnakeCheck id => cases id <;> rfl
  | _ => rfl

/-- Two answers to the same question that come from the same world are equal. -/
lemma reads_eq {ch : Channel} {l w : List ch.Answer} (h : l ++ reads ch c e <+: w)
    (h' : l ++ reads ch c e' <+: w) : reads ch c e = reads ch c e' := by
  -- it is enough that they are answers to the same number of questions
  have of_length (hlen : (reads ch c e).length = (reads ch c e').length) :
      reads ch c e = reads ch c e' := by
    have hle : (l ++ reads ch c e).length ≤ (l ++ reads ch c e').length := by simp [hlen]
    exact List.append_cancel_left
      ((List.prefix_of_prefix_length_le h h' hle).eq_of_length (by simp [hlen]))
  cases ch with
  | key | window =>
    refine of_length ?_
    simp only [reads]
    split <;> rfl
  | getch | line =>
    refine of_length ?_
    simp only [reads]
    split_ifs <;> rfl
  | rand =>
    by_cases hpc : c.pc = .bonusCreate
    · -- the first result decides how many more are read
      have hread : ∀ e, l ++ reads .rand c e <+: w → l ++ [e.rand.1] <+: w := by
        intro e h
        refine List.IsPrefix.trans ((List.prefix_append_right_inj l).2 ?_) h
        simp only [reads, if_pos hpc]
        split_ifs <;> exact ⟨_, rfl⟩
      have hfirst : e.rand.1 = e'.rand.1 := by
        have hprefix := List.prefix_of_prefix_length_le (hread e h) (hread e' h') (by simp)
        simpa using hprefix.eq_of_length (by simp)
      refine of_length ?_
      simp only [reads, if_pos hpc, draws_congr hfirst]
      split_ifs <;> rfl
    · simp only [reads, if_neg hpc]

end Reads

/-! ### Two runs in the same world -/

/-- The test that opens the pause menu. -/
def Pauses (g : Game) : Prop := (g.ch = USBKEY_FCT ∨ g.ch2 = 27) ∧ g.start = false

instance (g : Game) : Decidable (Pauses g) := by unfold Pauses; infer_instance

lemma step_pause (g : Game) (e : Input) : step ⟨.pause, g⟩ e =
    if Pauses g then some ⟨.quitOpen, usbSend 49 (usbSend 49 g)⟩ else some (unpause g) := rfl

/-- Whether the pause menu is opened, in every frame. -/
def opens (c : Config) (_ : Input) : List Bool :=
  if c.pc = .pause then [decide (Pauses c.game)] else []

lemma Fed.of_snoc {W : World} {c₀ c : Config} {es : List Input} {e : Input}
    (hrun : main.run c₀ es = some c) (h : Fed W c₀ (es ++ [e])) : Fed W c₀ es := by
  intro ch
  have hch := h ch
  rw [Machine.log_snoc _ hrun] at hch
  exact (List.prefix_append _ _).trans hch

/-- **Two runs from one state that read the same answers go through the same states.** -/
theorem run_replay {W : World} {c₀ c c' : Config} {es es' : List Input}
    (hrun : main.run c₀ es = some c) (hrun' : main.run c₀ es' = some c') (hfed : Fed W c₀ es)
    (hfed' : Fed W c₀ es') (hlen : es.length = es'.length) :
    c' = c ∧ main.log opens c₀ es' = main.log opens c₀ es := by
  -- what has been read so far is the same, and so the next answers are
  have key := Machine.run_induction₂ (M := main) (P := fun es c es' c' =>
    Fed W c₀ es → Fed W c₀ es' → c' = c ∧ main.log opens c₀ es' = main.log opens c₀ es ∧
      ∀ ch, main.log (reads ch) c₀ es' = main.log (reads ch) c₀ es) ?_ ?_ hrun hrun' hlen
  · obtain ⟨hc, hopens, -⟩ := key hfed hfed'
    exact ⟨hc, hopens⟩
  · exact fun _ _ => ⟨rfl, rfl, fun _ => rfl⟩
  · intro es c e d es' c' e' d' hrun hrun' ih hstep hstep' hfed hfed'
    obtain ⟨rfl, hopens, hlogs⟩ := ih (hfed.of_snoc hrun) (hfed'.of_snoc hrun')
    have hreads : ∀ ch, reads ch c' e' = reads ch c' e := by
      intro ch
      have h := hfed ch
      have h' := hfed' ch
      rw [Machine.log_snoc _ hrun] at h
      rw [Machine.log_snoc _ hrun', hlogs ch] at h'
      exact reads_eq h' h
    refine ⟨Option.some_inj.1 (hstep'.symm.trans ((step_congr hreads).trans hstep)), ?_, ?_⟩
    · rw [Machine.log_snoc _ hrun, Machine.log_snoc _ hrun', hopens]
      rfl
    · intro ch
      rw [Machine.log_snoc _ hrun, Machine.log_snoc _ hrun', hlogs ch, hreads ch]

/-! ### The local `ch2` in a game of one player -/

def Game.setCh2 (x : ℤ) (g : Game) : Game := { g with ch2 := x }

def Config.setCh2 (x : ℤ) (c : Config) : Config := ⟨c.pc, c.game.setCh2 x⟩

section SetCh2

variable {x : ℤ} (g : Game) (id : Player)

lemma initBonus_setCh2 : initBonus (g.setCh2 x) = (initBonus g).setCh2 x :=
  List.foldl_hom (Game.setCh2 x) fun _ _ => rfl

lemma bonusCreate_setCh2 (e : Input) :
    bonusCreate e (g.setCh2 x) = (bonusCreate e g).map (Game.setCh2 x) := by
  have hfree : freeSlot (g.setCh2 x) = freeSlot g := rfl
  unfold bonusCreate
  rw [hfree]
  change (cRem e.rand.1 g.spawningRate).bind _ = _
  cases cRem e.rand.1 g.spawningRate with
  | none => rfl
  | some add =>
    simp only [Option.bind_eq_bind, Option.bind_some]
    have hguard : (add = 1 ∧ (g.setCh2 x).nbBonus < (g.setCh2 x).maxBonus) =
        (add = 1 ∧ g.nbBonus < g.maxBonus) := rfl
    by_cases hadd : add = 1 ∧ g.nbBonus < g.maxBonus
    · rw [if_pos hadd, if_pos (hguard ▸ hadd)]
      change (cRem e.rand.2.1 (g.maxX - 4)).bind _ = _
      cases cRem e.rand.2.1 (g.maxX - 4) with
      | none => rfl
      | some randX =>
        change (cRem e.rand.2.2 (g.maxY - 6)).bind _ = _
        simp only [Option.bind_some]
        cases cRem e.rand.2.2 (g.maxY - 6) with
        | none => rfl
        | some randY => cases freeSlot g <;> rfl
    · rw [if_neg hadd, if_neg (hguard ▸ hadd)]
      rfl

lemma pauses_setCh2 (hx : g.ch2 = 27 ↔ x = 27) : Pauses (g.setCh2 x) ↔ Pauses g :=
  and_congr_left' (or_congr_right hx.symm)

lemma bonusCheck_setCh2 : bonusCheck id (g.setCh2 x) = (bonusCheck id g).setCh2 x := by
  have hhit : hitSlot id (g.setCh2 x) = hitSlot id g := by cases id <;> rfl
  unfold bonusCheck
  rw [hhit]
  cases hitSlot id g <;> cases id <;> rfl

/-- **In a game of one player only one thing about `ch2` matters**: whether it is 27. -/
theorem step_setCh2 {c : Config} (hone : c.game.nbPlayer ≠ 2) (hx : c.game.ch2 = 27 ↔ x = 27)
    (e : Input) : step (c.setCh2 x) e = (step c e).map (Config.setCh2 x) := by
  obtain ⟨pc, g⟩ := c
  have hone : ¬ g.nbPlayer = 2 := hone
  have hone' : ¬ (g.setCh2 x).nbPlayer = 2 := hone
  simp only [Config.setCh2]
  cases pc with
  | menuDisp k =>
    simp only [step, menuTurn, Option.map_some]
    split_ifs <;> rfl
  | quitDisp k =>
    simp only [step, quitTurn, Option.map_some]
    split_ifs <;> rfl
  | initBonus =>
    simp only [step, initBonus_setCh2]
    rfl
  | getch =>
    simp only [step, if_neg hone, if_neg hone']
    rfl
  | pause =>
    rw [step_pause, step_pause]
    by_cases h : Pauses g
    · rw [if_pos h, if_pos ((pauses_setCh2 g hx).2 h)]
      rfl
    · rw [if_neg h, if_neg (mt (pauses_setCh2 g hx).1 h)]
      rfl
  | setDir id =>
    cases id
    · have h : steer .one (g.setCh2 x) = (steer .one g).setCh2 x := by
        rw [steer_eq, steer_eq]
        rfl
      simp only [step, h]
      rfl
    · simp only [step, steer, if_neg hone, if_neg hone']
      rfl
  | bonusCreate =>
    simp only [step, bonusCreate_setCh2, Option.map_map]
    rfl
  | wallCheck id =>
    have h : wallCheck id (g.setCh2 x) = wallCheck id g := by cases id <;> rfl
    simp only [step, h]
    cases wallCheck id g <;> rfl
  | crashCheck id =>
    have h : (g.setCh2 x).side id = g.side id := by cases id <;> rfl
    simp only [step, h]
    cases crashCheck (g.side id).snake <;> rfl
  | crashSnakeCheck id =>
    cases id
    · change some (if crashSnakeCheck g.two.snake .one g then _ else _) = _
      simp only [step]
      cases crashSnakeCheck g.two.snake .one g <;> rfl
    · change some (if crashSnakeCheck g.one.snake .two g then _ else _) = _
      simp only [step]
      cases crashSnakeCheck g.one.snake .two g <;> rfl
  | bonusCheck id =>
    cases id <;> simp only [step, bonusCheck_setCh2] <;> rfl
  | initSnake id | scoreDisp id | snakeMove id | snakeDisp id => cases id <;> rfl
  | _ => rfl

end SetCh2

/-- A game of one player in which `ch2` has its initial contents. -/
def Alone (ch2 : ℤ) (c : Config) : Prop := c.game.nbPlayer ≠ 2 ∧ c.game.ch2 = ch2

lemma Alone.step {ch2 : ℤ} {c c' : Config} {e : Input} (h : Alone ch2 c)
    (hstep : step c e = some c') : Alone ch2 c' := by
  refine ⟨(step_leaves hstep).nbPlayer ▸ h.1, ?_⟩
  by_cases hpc : c.pc = .getch
  · obtain ⟨pc, g⟩ := c
    obtain rfl : pc = .getch := hpc
    have hone : ¬ g.nbPlayer = 2 := h.1
    obtain rfl := Option.some_inj.1 hstep
    rw [if_neg hone]
    exact h.2
  · exact ((step_keeps hstep).key .two hpc).trans h.2

section OnePlayer

variable {arg arg' : List Char} {ch2 x : ℤ} {es : List Input}

lemma alone_initial (hone : nbPlayerOf arg = 1) : Alone ch2 (initial arg ch2) := by
  refine ⟨?_, rfl⟩
  change nbPlayerOf arg ≠ 2
  omega

lemma run_setCh2 (hone : nbPlayerOf arg = 1) (hx : ch2 = 27 ↔ x = 27) :
    main.run (initial arg x) es = (main.run (initial arg ch2) es).map (Config.setCh2 x) := by
  refine Machine.run_map (N := main) (f := Config.setCh2 x) (I := Alone ch2)
    (fun _ _ _ h hstep => h.step hstep) (fun c e h => ?_) (alone_initial hone)
  exact step_setCh2 h.1 (h.2 ▸ hx) e

lemma log_setCh2 {β : Type} {out : Config → Input → List β} (hone : nbPlayerOf arg = 1)
    (hx : ch2 = 27 ↔ x = 27) (same : ∀ c e, Alone ch2 c → out (c.setCh2 x) e = out c e) :
    main.log out (initial arg x) es = main.log out (initial arg ch2) es := by
  refine Machine.log_map (N := main) (f := Config.setCh2 x) (I := Alone ch2)
    (fun _ _ _ h hstep => h.step hstep) (fun c e h => ?_) same (alone_initial hone)
  exact step_setCh2 h.1 (h.2 ▸ hx) e

lemma reads_setCh2 (ch : Channel) (c : Config) (e : Input) :
    reads ch (c.setCh2 x) e = reads ch c e := by
  cases ch <;> rfl

lemma opens_setCh2 {c : Config} (h : Alone ch2 c) (hx : ch2 = 27 ↔ x = 27) (e : Input) :
    opens (c.setCh2 x) e = opens c e := by
  have hpauses : Pauses (c.setCh2 x).game ↔ Pauses c.game := pauses_setCh2 c.game (h.2 ▸ hx)
  simp only [opens, hpauses]
  rfl

/-- Games of one player that start with `ch2` and with `ch2'` in the local of that name: at every
step of two runs in the same world, they have opened the pause menu in the same frames, sent the
same bytes, and are in the same state but for this local. -/
def Replays (arg arg' : List Char) (ch2 ch2' : ℤ) : Prop :=
  ∀ (W : World) (es es' : List Input) (c c' : Config),
    main.run (initial arg ch2) es = some c → main.run (initial arg' ch2') es' = some c' →
    Fed W (initial arg ch2) es → Fed W (initial arg' ch2') es' → es.length = es'.length →
      main.log opens (initial arg' ch2') es' = main.log opens (initial arg ch2) es ∧
        c'.game.usbOut = c.game.usbOut ∧ c' = c.setCh2 ch2'

/-- Two frames without a key, up to the second test that opens the pause menu. -/
def idleRun : List Input :=
  (gameInputs 1 (8, 8) ['3'] [(0, -1, 0, 0, 0), (0, -1, 0, 0, 0)]).take 25

def idleWorld : World := fun ch => main.log (reads ch) (initial ['1'] 0) idleRun

/-- In `idleRun` the pause menu is opened exactly if the contents of `ch2` happen to be 27. -/
lemma opens_idleRun (hone : nbPlayerOf arg = 1) (x : ℤ) :
    ∃ c, main.run (initial arg x) idleRun = some c ∧ Fed idleWorld (initial arg x) idleRun ∧
      main.log opens (initial arg x) idleRun = [false, decide (x = 27)] := by
  have hinit : ∀ x, initial arg x = initial ['1'] x := by
    intro x
    simp only [initial, hone]
    rfl
  rw [hinit]
  have hone : nbPlayerOf ['1'] = 1 := rfl
  by_cases hx : x = 27
  · subst hx
    have hsome : (main.run (initial ['1'] 27) idleRun).isSome = true := by decide +kernel
    obtain ⟨c, hc⟩ := Option.isSome_iff_exists.1 hsome
    refine ⟨c, hc, fun ch => ?_, by decide +kernel⟩
    unfold idleWorld
    cases ch <;> decide +kernel
  · have hx0 : (0 : ℤ) = 27 ↔ x = 27 := by simp [hx]
    have hsome : (main.run (initial ['1'] 0) idleRun).isSome = true := by decide +kernel
    obtain ⟨c, hc⟩ := Option.isSome_iff_exists.1 hsome
    refine ⟨c.setCh2 x, ?_, fun ch => ?_, ?_⟩
    · rw [run_setCh2 hone hx0, hc]
      rfl
    · rw [log_setCh2 hone hx0 fun c e _ => reads_setCh2 ch c e]
      exact List.prefix_refl _
    · rw [log_setCh2 hone hx0 fun c e h => opens_setCh2 h hx0 e, decide_eq_false hx]
      decide +kernel

/-- **A game of one player is a function of what it reads, and of whether the contents of `ch2`
happen to be 27.** -/
theorem one_player_replays_iff {ch2' : ℤ} (hone : nbPlayerOf arg = 1)
    (hone' : nbPlayerOf arg' = 1) : Replays arg arg' ch2 ch2' ↔ (ch2 = 27 ↔ ch2' = 27) := by
  constructor
  · intro h
    obtain ⟨c, hrun, hfed, hopens⟩ := opens_idleRun hone ch2
    obtain ⟨c', hrun', hfed', hopens'⟩ := opens_idleRun hone' ch2'
    have hsame := (h idleWorld idleRun idleRun c c' hrun hrun' hfed hfed' rfl).1
    rw [hopens, hopens'] at hsame
    simpa using hsame.symm
  · intro hx W es es' c c' hrun hrun' hfed hfed' hlen
    have hinit : initial arg' ch2' = initial arg ch2' := by simp only [initial, hone, hone']
    rw [hinit] at hrun' hfed' ⊢
    -- the second run, with the `ch2` of the first
    rw [run_setCh2 hone hx] at hrun'
    obtain ⟨d, hd, rfl⟩ := Option.map_eq_some_iff.1 hrun'
    have hfed' : Fed W (initial arg ch2) es' := by
      intro ch
      rw [← log_setCh2 hone hx fun c e _ => reads_setCh2 ch c e]
      exact hfed' ch
    obtain ⟨rfl, hopens⟩ := run_replay hrun hd hfed hfed' hlen
    refine ⟨?_, rfl, rfl⟩
    rw [log_setCh2 hone hx fun c e h => opens_setCh2 h hx e, hopens]

theorem one_player_replays_zero : Replays ['1'] ['1'] 0 1 :=
  (one_player_replays_iff rfl rfl).2 (by decide)

/-- **A game of one player is not a function of what it reads**: if the contents of `ch2` happen to
be 27, the pause menu opens in the second frame although no key is pressed. -/
theorem one_player_not_replayed :
    ¬ ∀ (arg arg' : List Char) (ch2 ch2' : ℤ), nbPlayerOf arg = 1 → nbPlayerOf arg' = 1 →
      Replays arg arg' ch2 ch2' := by
  intro hall
  have hone : nbPlayerOf ['1'] = 1 := rfl
  obtain ⟨c, hrun, hfed, hopens⟩ := opens_idleRun hone 0
  obtain ⟨c', hrun', hfed', hopens'⟩ := opens_idleRun hone 27
  have hsame := (hall ['1'] ['1'] 0 27 hone hone idleWorld _ _ c c' hrun hrun' hfed hfed' rfl).1
  rw [hopens, hopens'] at hsame
  simp at hsame

end OnePlayer

end UsbJoystick.Snake
