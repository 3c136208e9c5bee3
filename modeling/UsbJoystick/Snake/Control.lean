import UsbJoystick.Snake.Cells
import UsbJoystick.Snake.Main

/-!
The control flow of `main`, and what its statements leave alone.

`next` is the control flow graph of the program: which program points can come after one.
Everything about the order of the statements is read off the graph (`step_next`), and everything
about the fields that a statement does not assign is in `Leaves` (`step_leaves`). Proofs about
runs use these two and do not go through the statements again.
-/

namespace UsbJoystick.Snake

open UsbJoystick.Lib

/-! ### What the statements leave alone -/

section Frame

variable (g : Game) (p q : Player) (s : Side) (e : Input)

@[simp] lemma side_setSide_self : (g.setSide p s).side p = s := by cases p <;> rfl

lemma side_setSide_ne {p q : Player} (h : q ≠ p) : (g.setSide p s).side q = g.side q := by
  cases p <;> cases q <;> first | rfl | exact absurd rfl h

lemma side_setDir (k : ℤ) : (setDir k q g).side p = g.side p := by
  cases q <;> simp only [setDir] <;> split_ifs <;> rfl

lemma side_steer : (steer q g).side p = g.side p := by
  cases q <;> simp only [steer] <;> split_ifs <;> first | rfl | exact side_setDir g p _ _

lemma initBonus_eq : ∃ b, initBonus g = { g with bonusList := b } := by
  suffices h : ∀ (is : List ℕ) (g : Game), ∃ b,
      is.foldl (fun g i => g.setSlot i ⟨0, 0, false⟩) g = { g with bonusList := b } from h _ g
  intro is
  induction is with
  | nil => exact fun g => ⟨g.bonusList, rfl⟩
  | cons i is ih =>
    intro g
    obtain ⟨b, hb⟩ := ih (g.setSlot i ⟨0, 0, false⟩)
    exact ⟨b, hb⟩

lemma side_initBonus : (initBonus g).side p = g.side p := by
  obtain ⟨b, hb⟩ := initBonus_eq g
  rw [hb]
  rfl

/-- What `bonus_create` does when it does not trap: it counts a bonus and stores it in the first
free slot, if there is one, or it does nothing. -/
lemma bonusCreate_cases {g g' : Game} {e : Input} (h : bonusCreate e g = some g') :
    g' = g ∨ g.nbBonus < g.maxBonus ∧
      ((freeSlot g = none ∧ g' = { g with nbBonus := g.nbBonus + 1 }) ∨
        ∃ i x y, freeSlot g = some i ∧
          g' = { g.setSlot i ⟨x, y, true⟩ with nbBonus := g.nbBonus + 1 }) := by
  obtain ⟨add, -, h⟩ := Option.bind_eq_some_iff.1 h
  by_cases hadd : add = 1 ∧ g.nbBonus < g.maxBonus
  · rw [if_pos hadd] at h
    obtain ⟨x, -, h⟩ := Option.bind_eq_some_iff.1 h
    obtain ⟨y, -, h⟩ := Option.bind_eq_some_iff.1 h
    right
    refine ⟨hadd.2, ?_⟩
    cases hfree : freeSlot g with
    | none => exact Or.inl ⟨rfl, by simpa [hfree, eq_comm] using h⟩
    | some i => exact Or.inr ⟨i, 2 + x, 3 + y, rfl, by simpa [hfree, eq_comm] using h⟩
  · rw [if_neg hadd] at h
    left
    simpa [eq_comm] using h

lemma side_bonusCreate {g g' : Game} {e : Input} (h : bonusCreate e g = some g') :
    g'.side p = g.side p := by
  rcases bonusCreate_cases h with rfl | ⟨-, ⟨-, rfl⟩ | ⟨i, x, y, -, rfl⟩⟩ <;> rfl

/-- A bonus is eaten from a slot, or there is none on the head. -/
lemma bonusCheck_cases : hitSlot q g = none ∧ bonusCheck q g = g ∨
    ∃ i, hitSlot q g = some i ∧ bonusCheck q g = { (g.setSide q { g.side q with
      score := (g.side q).score + 1, snake := snakeGrow (g.side q).snake }).setSlot i
        { g.slot i with activ := false } with nbBonus := g.nbBonus - 1 } := by
  unfold bonusCheck
  cases hitSlot q g with
  | none => exact Or.inl ⟨rfl, rfl⟩
  | some i => exact Or.inr ⟨i, rfl, rfl⟩

lemma hitSlot_eq_none : hitSlot p g = none ↔ ∀ i ∈ g.slots, onHead p g i = false := by
  simp [hitSlot]

lemma side_bonusCheck_self :
    (∀ i ∈ g.slots, onHead p g i = false) ∧ (bonusCheck p g).side p = g.side p ∨
    (∃ i ∈ g.slots, onHead p g i = true) ∧ (bonusCheck p g).side p =
      { g.side p with score := (g.side p).score + 1, snake := snakeGrow (g.side p).snake } := by
  rcases bonusCheck_cases g p with ⟨hi, hg⟩ | ⟨i, hi, hg⟩ <;> rw [hg]
  · exact Or.inl ⟨(hitSlot_eq_none g p).1 hi, rfl⟩
  · exact Or.inr ⟨⟨i, List.mem_of_find?_eq_some hi, List.find?_some hi⟩, side_setSide_self g p _⟩

lemma side_bonusCheck_ne {p q : Player} (h : p ≠ q) : (bonusCheck q g).side p = g.side p := by
  rcases bonusCheck_cases g q with ⟨-, hg⟩ | ⟨i, -, hg⟩
  · rw [hg]
  · rw [hg]
    exact side_setSide_ne g _ h

lemma menuTurn_cases (highlight : ℤ) :
    (∃ r, menuTurn highlight e g = ⟨.menu2Disp, { g with spawningRate := r }⟩) ∨
      ∃ k, menuTurn highlight e g = ⟨.menuDisp k, g⟩ := by
  simp only [menuTurn]
  split_ifs
  · exact Or.inl ⟨_, rfl⟩
  · exact Or.inr ⟨_, rfl⟩

lemma quitTurn_cases (highlight : ℤ) :
    quitTurn highlight e g = unpause (usbSend 48 (usbSend 48 g)) ∨
      quitTurn highlight e g = ⟨.epilogue, g⟩ ∨ ∃ k, quitTurn highlight e g = ⟨.quitDisp k, g⟩ := by
  simp only [quitTurn]
  split_ifs
  · exact Or.inl rfl
  · exact Or.inr (Or.inl rfl)
  · exact Or.inr (Or.inr ⟨_, rfl⟩)
  · exact Or.inr (Or.inr ⟨_, rfl⟩)

end Frame

/-- What the bonuses and the scores consist of. -/
def Game.tally (g : Game) : ℤ × ℤ × Vector Bonus MAX_BONUS × ℕ × ℕ :=
  (g.maxBonus, g.nbBonus, g.bonusList, g.one.score, g.two.score)

lemma score_snakeMove (dir : Dir) (s : Side) : (snakeMove dir s).score = s.score := by
  rw [snakeMove_eq, moveTo_score]

/-! ### The control flow graph -/

/-- The program points that can come after a program point in a game of `n` players. -/
def next (n : ℕ) : Pc → Pc → Prop
  | .menuDisp _, pc => pc = .menu2Disp ∨ ∃ k, pc = .menuDisp k
  | .menu2Disp, pc => pc = .getmaxyxInit
  | .getmaxyxInit, pc => pc = .initSnake .one
  | .initSnake .one, pc => n = 2 ∧ pc = .initSnake .two ∨ n ≠ 2 ∧ pc = .initBonus
  | .initSnake .two, pc => pc = .initBonus
  | .initBonus, pc => pc = .getmaxyx
  | .getmaxyx, pc => pc = .keyPressed
  | .keyPressed, pc => pc = .getch
  | .getch, pc => pc = .pause
  | .pause, pc => pc = .quitOpen ∨ pc = .setDir .one
  | .quitOpen, pc => pc = .quitDisp 0
  | .quitDisp _, pc => pc = .setDir .one ∨ pc = .epilogue ∨ ∃ k, pc = .quitDisp k
  | .setDir .one, pc => pc = .setDir .two
  | .setDir .two, pc => pc = .uiDraw
  | .uiDraw, pc => pc = .scoreDisp .one
  | .scoreDisp .one, pc => n = 2 ∧ pc = .scoreDisp .two ∨ n ≠ 2 ∧ pc = .bonusCreate
  | .scoreDisp .two, pc => pc = .bonusCreate
  | .bonusCreate, pc => pc = .bonusDisp
  | .bonusDisp, pc => pc = .snakeMove .one
  | .snakeMove .one, pc => n = 2 ∧ pc = .snakeMove .two ∨ n ≠ 2 ∧ pc = .snakeDisp .one
  | .snakeMove .two, pc => pc = .snakeDisp .one
  | .snakeDisp .one, pc => n = 2 ∧ pc = .snakeDisp .two ∨ n ≠ 2 ∧ pc = .wallCheck .one
  | .snakeDisp .two, pc => pc = .wallCheck .one
  | .wallCheck id, pc => pc = .crashCheck id ∨ pc = .epilogue
  | .crashCheck id, pc => pc = .bonusCheck id ∨ pc = .epilogue
  | .bonusCheck .one, pc => n = 2 ∧ pc = .wallCheck .two ∨ n ≠ 2 ∧ pc = .refresh
  | .bonusCheck .two, pc => pc = .crashSnakeCheck .two
  | .crashSnakeCheck .two, pc => pc = .crashSnakeCheck .one ∨ pc = .epilogue
  | .crashSnakeCheck .one, pc => pc = .refresh ∨ pc = .epilogue
  | .refresh, pc => pc = .getmaxyx
  | .epilogue, pc => pc = .halt
  | .halt, _ => False

lemma ifTwo_cases (g : Game) (a b : Pc) :
    g.nbPlayer = 2 ∧ g.ifTwo a b = a ∨ g.nbPlayer ≠ 2 ∧ g.ifTwo a b = b := by
  unfold Game.ifTwo
  split_ifs with h
  · exact Or.inl ⟨h, rfl⟩
  · exact Or.inr ⟨h, rfl⟩

/-- In a game of player 2 the guards `nb_player == 2` hold. -/
lemma Plays.ifTwo {g : Game} (hp : Plays g .two) (a b : Pc) : g.ifTwo a b = a := by
  rcases hp with h | h
  · cases h
  · exact if_pos h

/-- **The graph is the one of the program.** -/
theorem step_next {c c' : Config} {e : Input} (h : step c e = some c') :
    next c.game.nbPlayer c.pc c'.pc := by
  obtain ⟨pc, g⟩ := c
  cases pc with
  | menuDisp k =>
    obtain rfl := Option.some_inj.1 h
    rcases menuTurn_cases g e k with ⟨r, hr⟩ | ⟨k', hr⟩ <;> rw [hr]
    · exact Or.inl rfl
    · exact Or.inr ⟨k', rfl⟩
  | initSnake id | scoreDisp id | snakeMove id | snakeDisp id | bonusCheck id =>
    cases id <;> obtain rfl := Option.some_inj.1 h
    · exact ifTwo_cases g _ _
    · rfl
  | pause =>
    simp only [step] at h
    split_ifs at h <;> obtain rfl := Option.some_inj.1 h
    · exact Or.inl rfl
    · exact Or.inr rfl
  | quitDisp k =>
    obtain rfl := Option.some_inj.1 h
    rcases quitTurn_cases g e k with hr | hr | ⟨k', hr⟩ <;> rw [hr]
    · exact Or.inl rfl
    · exact Or.inr (Or.inl rfl)
    · exact Or.inr (Or.inr ⟨k', rfl⟩)
  | setDir id => cases id <;> obtain rfl := Option.some_inj.1 h <;> rfl
  | bonusCreate =>
    obtain ⟨g', -, rfl⟩ := Option.map_eq_some_iff.1 h
    rfl
  | wallCheck id | crashCheck id =>
    obtain rfl := Option.some_inj.1 h
    split_ifs
    · exact Or.inr rfl
    · exact Or.inl rfl
  | crashSnakeCheck id =>
    cases id <;> obtain rfl := Option.some_inj.1 h <;> split_ifs
    · exact Or.inr rfl
    · exact Or.inl rfl
    · exact Or.inr rfl
    · exact Or.inl rfl
  | halt => cases h
  | _ =>
    obtain rfl := Option.some_inj.1 h
    rfl

/-! ### Fields -/

/-- The checks that can end the game. -/
def Checks : Pc → Prop
  | .wallCheck _ | .crashCheck _ | .crashSnakeCheck _ => True
  | _ => False

/-- The statements that work on the bonuses and the scores. -/
def OnTable : Pc → Prop
  | .menu2Disp | .initBonus | .bonusCreate | .bonusCheck _ => True
  | _ => False

/-- What a step from `c` to `c'` leaves alone: the number of players; `loose`, except where a
check ends the game; and the bonuses and the scores, except where a statement works on them. -/
structure Leaves (c c' : Config) : Prop where
  nbPlayer : c'.game.nbPlayer = c.game.nbPlayer
  loose : c'.game.loose = c.game.loose ∨ Checks c.pc ∧ c'.pc = .epilogue
  tally : ¬ OnTable c.pc → c'.game.tally = c.game.tally

theorem step_leaves {c c' : Config} {e : Input} (h : step c e = some c') : Leaves c c' := by
  obtain ⟨pc, g⟩ := c
  cases pc with
  | menuDisp k =>
    obtain rfl := Option.some_inj.1 h
    rcases menuTurn_cases g e k with ⟨r, hr⟩ | ⟨k', hr⟩ <;> rw [hr] <;>
      exact ⟨rfl, Or.inl rfl, fun _ => rfl⟩
  | initBonus =>
    obtain rfl := Option.some_inj.1 h
    obtain ⟨b, hb⟩ := initBonus_eq g
    refine ⟨?_, Or.inl ?_, fun hpc => absurd trivial hpc⟩ <;> simp only [hb]
  | getch =>
    obtain rfl := Option.some_inj.1 h
    simp only
    split_ifs <;> exact ⟨rfl, Or.inl rfl, fun _ => rfl⟩
  | pause =>
    simp only [step] at h
    split_ifs at h <;> obtain rfl := Option.some_inj.1 h <;> exact ⟨rfl, Or.inl rfl, fun _ => rfl⟩
  | quitDisp k =>
    obtain rfl := Option.some_inj.1 h
    rcases quitTurn_cases g e k with hr | hr | ⟨k', hr⟩ <;> rw [hr] <;>
      exact ⟨rfl, Or.inl rfl, fun _ => rfl⟩
  | setDir id =>
    cases id <;> obtain rfl := Option.some_inj.1 h <;> simp only [steer, setDir] <;>
      split_ifs <;> exact ⟨rfl, Or.inl rfl, fun _ => rfl⟩
  | bonusCreate =>
    obtain ⟨g', hg', rfl⟩ := Option.map_eq_some_iff.1 h
    rcases bonusCreate_cases hg' with rfl | ⟨-, ⟨-, rfl⟩ | ⟨i, x, y, -, rfl⟩⟩ <;>
      exact ⟨rfl, Or.inl rfl, fun hpc => absurd trivial hpc⟩
  | snakeMove id =>
    cases id <;> obtain rfl := Option.some_inj.1 h <;> refine ⟨rfl, Or.inl rfl, fun _ => ?_⟩
    · exact congrArg (fun n => (g.maxBonus, g.nbBonus, g.bonusList, n, g.two.score))
        (score_snakeMove g.dir g.one)
    · exact congrArg (fun n => (g.maxBonus, g.nbBonus, g.bonusList, g.one.score, n))
        (score_snakeMove g.dirB g.two)
  | bonusCheck id =>
    rcases bonusCheck_cases g id with ⟨-, hg⟩ | ⟨i, -, hg⟩ <;> cases id <;>
      obtain rfl := Option.some_inj.1 h <;> rw [hg] <;>
      exact ⟨rfl, Or.inl rfl, fun hpc => absurd trivial hpc⟩
  | wallCheck id | crashCheck id =>
    obtain rfl := Option.some_inj.1 h
    split_ifs
    · exact ⟨rfl, Or.inr ⟨trivial, rfl⟩, fun _ => rfl⟩
    · exact ⟨rfl, Or.inl rfl, fun _ => rfl⟩
  | crashSnakeCheck id =>
    cases id <;> obtain rfl := Option.some_inj.1 h <;> split_ifs
    · exact ⟨rfl, Or.inr ⟨trivial, rfl⟩, fun _ => rfl⟩
    · exact ⟨rfl, Or.inl rfl, fun _ => rfl⟩
    · exact ⟨rfl, Or.inr ⟨trivial, rfl⟩, fun _ => rfl⟩
    · exact ⟨rfl, Or.inl rfl, fun _ => rfl⟩
  | initSnake id | scoreDisp id | snakeDisp id =>
    cases id <;> obtain rfl := Option.some_inj.1 h <;> exact ⟨rfl, Or.inl rfl, fun _ => rfl⟩
  | menu2Disp =>
    obtain rfl := Option.some_inj.1 h
    exact ⟨rfl, Or.inl rfl, fun hpc => absurd trivial hpc⟩
  | halt => cases h
  | _ =>
    obtain rfl := Option.some_inj.1 h
    exact ⟨rfl, Or.inl rfl, fun _ => rfl⟩

lemma step_plays {c c' : Config} {e : Input} (h : step c e = some c') (p : Player) :
    Plays c'.game p ↔ Plays c.game p := by
  unfold Plays
  rw [(step_leaves h).nbPlayer]

/-! ### Keys and directions -/

/-- The key of a player in a frame: the local `ch` or `ch2` of `main`. -/
def Game.keyOf (g : Game) : Player → ℤ
  | .one => g.ch
  | .two => g.ch2

/-- Where `main` reads the key of a player. -/
def asks : Player → Pc
  | .one => .keyPressed
  | .two => .getch

/-- The direction that a key stands for, if it is one of the four keys of the player. -/
def keyDir : Player → ℤ → Option Dir
  | .one, k =>
    if k = USBKEY_LEFT then some .left else if k = USBKEY_RIGHT then some .right
    else if k = USBKEY_UP then some .up else if k = USBKEY_DOWN then some .down else none
  | .two, k =>
    if k = KEY_LEFT then some .left else if k = KEY_RIGHT then some .right
    else if k = KEY_UP then some .up else if k = KEY_DOWN then some .down else none

def Game.setDirOf (g : Game) : Player → Dir → Game
  | .one, d => { g with dir := d }
  | .two, d => { g with dirB := d }

@[simp] lemma setDirOf_dirOf (g : Game) (p : Player) : g.setDirOf p (g.dirOf p) = g := by
  cases p <;> rfl

@[simp] lemma dirOf_setDirOf (g : Game) (p : Player) (d : Dir) : (g.setDirOf p d).dirOf p = d := by
  cases p <;> rfl

lemma dirOf_setDirOf_ne (g : Game) {p q : Player} (h : p ≠ q) (d : Dir) :
    (g.setDirOf q d).dirOf p = g.dirOf p := by
  cases p <;> cases q <;> first | rfl | exact absurd rfl h

lemma setDir_eq (k : ℤ) (p : Player) (g : Game) :
    setDir k p g = g.setDirOf p ((keyDir p k).getD (g.dirOf p)) := by
  cases p <;> simp only [setDir, keyDir] <;> split_ifs <;> rfl

/-- **Steering**: `main` guards the calls of `set_dir` with the tests that `set_dir` makes again. -/
lemma steer_eq (p : Player) (g : Game) : steer p g =
    if Plays g p then g.setDirOf p ((keyDir p (g.keyOf p)).getD (g.dirOf p)) else g := by
  cases p with
  | one =>
    have hp : Plays g .one := Or.inl rfl
    rw [if_pos hp, ← setDir_eq]
    simp only [steer, Game.keyOf]
    split_ifs with h
    · rfl
    · simp only [not_or] at h
      simp [setDir, h]
  | two =>
    simp only [steer, Plays, reduceCtorEq, false_or]
    split_ifs with htwo h
    · exact setDir_eq g.ch2 .two g
    · simp only [not_or] at h
      simp [Game.keyOf, keyDir, h]
    · rfl

/-- What a step from `c` to `c'` leaves alone of the steering: the direction asked for, except in
`set_dir`; the key, except where it is read; and the spawning rate, except in its menu. -/
structure Keeps (c c' : Config) : Prop where
  dir : ∀ p, c.pc ≠ .setDir p → c'.game.dirOf p = c.game.dirOf p
  key : ∀ p, c.pc ≠ asks p → c'.game.keyOf p = c.game.keyOf p
  rate : (∀ k, c.pc ≠ .menuDisp k) → c'.game.spawningRate = c.game.spawningRate

lemma Keeps.of_eq {c c' : Config} (hdir : c'.game.dirOf = c.game.dirOf)
    (hkey : c'.game.keyOf = c.game.keyOf) (hrate : c'.game.spawningRate = c.game.spawningRate) :
    Keeps c c' :=
  ⟨fun p _ => congrFun hdir p, fun p _ => congrFun hkey p, fun _ => hrate⟩

theorem step_keeps {c c' : Config} {e : Input} (h : step c e = some c') : Keeps c c' := by
  obtain ⟨pc, g⟩ := c
  cases pc with
  | menuDisp k =>
    obtain rfl := Option.some_inj.1 h
    rcases menuTurn_cases g e k with ⟨r, hr⟩ | ⟨k', hr⟩ <;> rw [hr]
    · exact ⟨fun _ _ => rfl, fun _ _ => rfl, fun hpc => absurd rfl (hpc k)⟩
    · exact Keeps.of_eq rfl rfl rfl
  | initBonus =>
    obtain rfl := Option.some_inj.1 h
    obtain ⟨b, hb⟩ := initBonus_eq g
    refine Keeps.of_eq ?_ ?_ ?_ <;> simp only [hb] <;> rfl
  | keyPressed =>
    obtain rfl := Option.some_inj.1 h
    refine ⟨fun _ _ => rfl, fun p hpc => ?_, fun _ => rfl⟩
    cases p
    · exact absurd rfl hpc
    · rfl
  | getch =>
    obtain rfl := Option.some_inj.1 h
    simp only
    split_ifs
    · refine ⟨fun _ _ => rfl, fun p hpc => ?_, fun _ => rfl⟩
      cases p
      · rfl
      · exact absurd rfl hpc
    · exact Keeps.of_eq rfl rfl rfl
  | pause =>
    simp only [step] at h
    split_ifs at h <;> obtain rfl := Option.some_inj.1 h <;> exact Keeps.of_eq rfl rfl rfl
  | quitDisp k =>
    obtain rfl := Option.some_inj.1 h
    rcases quitTurn_cases g e k with hr | hr | ⟨k', hr⟩ <;> rw [hr] <;>
      exact Keeps.of_eq rfl rfl rfl
  | setDir id =>
    have hgame : c'.game = steer id g := by
      cases id <;> obtain rfl := Option.some_inj.1 h <;> rfl
    rw [steer_eq] at hgame
    split_ifs at hgame
    · refine ⟨fun p hpc => ?_, fun p _ => ?_, fun _ => ?_⟩ <;> rw [hgame]
      · exact dirOf_setDirOf_ne g (fun hpq => hpc (by rw [hpq])) _
      · cases id <;> cases p <;> rfl
      · cases id <;> rfl
    · exact Keeps.of_eq (by rw [hgame]) (by rw [hgame]) (by rw [hgame])
  | bonusCreate =>
    obtain ⟨g', hg', rfl⟩ := Option.map_eq_some_iff.1 h
    rcases bonusCreate_cases hg' with rfl | ⟨-, ⟨-, rfl⟩ | ⟨i, x, y, -, rfl⟩⟩ <;>
      exact Keeps.of_eq rfl rfl rfl
  | bonusCheck id =>
    rcases bonusCheck_cases g id with ⟨-, hg⟩ | ⟨i, -, hg⟩ <;> cases id <;>
      obtain rfl := Option.some_inj.1 h <;> rw [hg] <;> exact Keeps.of_eq rfl rfl rfl
  | wallCheck id | crashCheck id =>
    obtain rfl := Option.some_inj.1 h
    split_ifs <;> exact Keeps.of_eq rfl rfl rfl
  | crashSnakeCheck id =>
    cases id <;> obtain rfl := Option.some_inj.1 h <;> split_ifs <;> exact Keeps.of_eq rfl rfl rfl
  | initSnake id | scoreDisp id | snakeMove id | snakeDisp id =>
    cases id <;> obtain rfl := Option.some_inj.1 h <;> exact Keeps.of_eq rfl rfl rfl
  | halt => cases h
  | _ =>
    obtain rfl := Option.some_inj.1 h
    exact Keeps.of_eq rfl rfl rfl

/-! ### The statements of player 2 -/

/-- The program points that `main` guards with `nb_player == 2`. -/
def Second : Pc → Prop
  | .initSnake .two | .scoreDisp .two | .snakeMove .two | .snakeDisp .two => True
  | .wallCheck .two | .crashCheck .two | .bonusCheck .two | .crashSnakeCheck _ => True
  | _ => False

/-- They are entered under the guard. -/
lemma next_second {n : ℕ} {pc pc' : Pc} (h : next n pc pc') (hs : Second pc') :
    Second pc ∨ n = 2 := by
  unfold next at h
  split at h <;> grind [Second]

theorem run_second {arg : List Char} {ch2 : ℤ} {es : List Input} {c : Config}
    (hrun : main.run (initial arg ch2) es = some c) (hs : Second c.pc) : c.game.nbPlayer = 2 := by
  refine Machine.run_inv (I := fun c => Second c.pc → c.game.nbPlayer = 2) ?_ ?_ hrun hs
  · exact fun h => h.elim
  · intro c e c' hind hstep hs
    rw [(step_leaves hstep).nbPlayer]
    rcases next_second (step_next hstep) hs with hs | hn
    · exact hind hs
    · exact hn

/-- A player whose statement is reached takes part in the game. -/
lemma run_plays {arg : List Char} {ch2 : ℤ} {es : List Input} {c : Config} {p : Player}
    (hrun : main.run (initial arg ch2) es = some c) (pc : Player → Pc) (hpc : c.pc = pc p)
    (hsecond : Second (pc .two)) : Plays c.game p := by
  cases p with
  | one => exact Or.inl rfl
  | two => exact Or.inr (run_second hrun (hpc ▸ hsecond))

end UsbJoystick.Snake
