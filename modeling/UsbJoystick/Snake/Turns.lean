import UsbJoystick.Snake.Control

/-!
What a step of `main` means to one player.

Most statements of the program leave the snakes alone. Between two moves a player goes through
the stages `rested`, `moved`, `walled` (the wall test is passed), `judged` (the list test is
passed too) and, after `bonus_check`, `rested` again. `Turn` lists everything a step can do to a
player, and `step_turn` says that the list is complete: the invariants of the game are proved by
cases on it, and look at no program point themselves.
-/

namespace UsbJoystick.Snake

open UsbJoystick.Lib

/-! ### The stages of a player -/

inductive Stage where
  | unborn -- before `init_snake`
  | rested -- from the end of the checks of a frame to the next move
  | moved
  | walled
  | judged
  | ended -- the game is over
  deriving DecidableEq

def stage (p : Player) : Pc → Stage
  | .menuDisp _ | .menu2Disp | .getmaxyxInit => .unborn
  | .initSnake .one => .unborn
  | .initSnake .two => match p with | .one => .rested | .two => .unborn
  | .snakeMove .one => .rested
  | .snakeMove .two => match p with | .one => .moved | .two => .rested
  | .snakeDisp _ => .moved
  | .wallCheck .one => .moved
  | .wallCheck .two => match p with | .one => .rested | .two => .moved
  | .crashCheck .one => match p with | .one => .walled | .two => .moved
  | .crashCheck .two => match p with | .one => .rested | .two => .walled
  | .bonusCheck .one => match p with | .one => .judged | .two => .moved
  | .bonusCheck .two => match p with | .one => .rested | .two => .judged
  | .epilogue | .halt => .ended
  | _ => .rested

/-- The positions that a step writes at the end of the list of `p`: the three cells of
`init_snake`, or the head that `tail_add` appends. -/
def written (p : Player) (c : Config) (_ : Input) : List (ℤ × ℤ) :=
  if c.pc = .initSnake p then ((initSnake p c.game).side p).snake.map Pos.xy
  else if c.pc = .snakeMove p then [(snakeMove (c.game.dirOf p) (c.game.side p)).snakeEnd.xy]
  else []

/-- The position of the cell of `p` that `head_del` frees in a step. -/
def freed (p : Player) (c : Config) (_ : Input) : List (ℤ × ℤ) :=
  if c.pc = .snakeMove p then ((c.game.side p).snake.head?.map Pos.xy).toList else []

/-- What a step from `c` to `c'` can do to the player `p`. -/
inductive Turn (p : Player) (c c' : Config) : Prop where
  | born (pc : c.pc = .initSnake p) (side : c'.game.side p = (initSnake p c.game).side p)
      (before : stage p c.pc = .unborn) (after : stage p c'.pc = .rested)
  | move (pc : c.pc = .snakeMove p)
      (side : c'.game.side p = snakeMove (c.game.dirOf p) (c.game.side p))
      (before : stage p c.pc = .rested) (after : stage p c'.pc = .moved)
  | wall (pc : c.pc = .wallCheck p) (game : c'.game = c.game) (ok : wallCheck p c.game = false)
      (before : stage p c.pc = .moved) (after : stage p c'.pc = .walled)
  | crash (pc : c.pc = .crashCheck p) (game : c'.game = c.game)
      (ok : crashCheck (c.game.side p).snake = false)
      (before : stage p c.pc = .walled) (after : stage p c'.pc = .judged)
  | eat (pc : c.pc = .bonusCheck p) (game : c'.game = bonusCheck p c.game)
      (before : stage p c.pc = .judged) (after : stage p c'.pc = .rested)
  | idle (init : c.pc ≠ .initSnake p) (move : c.pc ≠ .snakeMove p) (eat : c.pc ≠ .bonusCheck p)
      (side : c'.game.side p = c.game.side p) (same : stage p c'.pc = stage p c.pc)
  | ends (init : c.pc ≠ .initSnake p) (move : c.pc ≠ .snakeMove p) (eat : c.pc ≠ .bonusCheck p)
      (side : c'.game.side p = c.game.side p) (after : stage p c'.pc = .ended)

lemma stage_ifTwo {g : Game} {p : Player} {a b : Pc} {t : Stage} (ha : stage p a = t)
    (hb : stage p b = t) : stage p (g.ifTwo a b) = t := by
  unfold Game.ifTwo
  split_ifs
  · exact ha
  · exact hb

lemma stage_eq_ended {p : Player} {pc : Pc} :
    stage p pc = .ended ↔ pc = .epilogue ∨ pc = .halt := by
  cases pc with
  | initSnake id | snakeMove id | wallCheck id | crashCheck id | bonusCheck id =>
    cases id <;> cases p <;> simp [stage]
  | _ => simp [stage]

lemma step_ended {c c' : Config} {e : Input} {p : Player} (h : step c e = some c')
    (hended : stage p c.pc = .ended) : stage p c'.pc = .ended := by
  obtain ⟨pc, g⟩ := c
  rcases stage_eq_ended.1 hended with rfl | rfl
  · obtain rfl := Option.some_inj.1 h
    rfl
  · cases h

/-- **`Turn` lists everything a step can do to a player of the game.** -/
theorem step_turn {c c' : Config} {e : Input} {p : Player} (hp : Plays c.game p)
    (h : step c e = some c') : Turn p c c' := by
  obtain ⟨pc, g⟩ := c
  have idle : ∀ {pc g' pc'}, pc ≠ .initSnake p → pc ≠ .snakeMove p → pc ≠ .bonusCheck p →
      g'.side p = g.side p → stage p pc' = stage p pc → Turn p ⟨pc, g⟩ ⟨pc', g'⟩ :=
    fun h1 h2 h3 hs ht => .idle h1 h2 h3 hs ht
  cases pc with
  | menuDisp k =>
    obtain rfl := Option.some_inj.1 h
    rcases menuTurn_cases g e k with ⟨r, hr⟩ | ⟨k', hr⟩ <;> rw [hr] <;>
      exact idle (by simp) (by simp) (by simp) rfl rfl
  | menu2Disp | getmaxyxInit | getmaxyx | keyPressed | quitOpen | uiDraw | bonusDisp | refresh =>
    obtain rfl := Option.some_inj.1 h
    exact idle (by simp) (by simp) (by simp) rfl rfl
  | initSnake id =>
    cases id <;> cases p <;> obtain rfl := Option.some_inj.1 h
    · exact .born rfl rfl rfl (stage_ifTwo rfl rfl)
    · rw [hp.ifTwo]
      exact idle (by simp) (by simp) (by simp) rfl rfl
    · exact idle (by simp) (by simp) (by simp) rfl rfl
    · exact .born rfl rfl rfl rfl
  | initBonus =>
    obtain rfl := Option.some_inj.1 h
    exact idle (by simp) (by simp) (by simp) (side_initBonus g p) rfl
  | getch =>
    obtain rfl := Option.some_inj.1 h
    refine idle (by simp) (by simp) (by simp) ?_ rfl
    split_ifs <;> rfl
  | pause =>
    simp only [step] at h
    split_ifs at h <;> obtain rfl := Option.some_inj.1 h <;>
      exact idle (by simp) (by simp) (by simp) rfl rfl
  | quitDisp k =>
    obtain rfl := Option.some_inj.1 h
    rcases quitTurn_cases g e k with hr | hr | ⟨k', hr⟩ <;> rw [hr]
    · exact idle (by simp) (by simp) (by simp) rfl rfl
    · exact .ends (by simp) (by simp) (by simp) rfl rfl
    · exact idle (by simp) (by simp) (by simp) rfl rfl
  | setDir id =>
    cases id <;> obtain rfl := Option.some_inj.1 h <;>
      exact idle (by simp) (by simp) (by simp) (side_steer g p _) rfl
  | scoreDisp id =>
    cases id <;> obtain rfl := Option.some_inj.1 h
    · exact idle (by simp) (by simp) (by simp) rfl (stage_ifTwo rfl rfl)
    · exact idle (by simp) (by simp) (by simp) rfl rfl
  | bonusCreate =>
    obtain ⟨g', hg', rfl⟩ := Option.map_eq_some_iff.1 h
    exact idle (by simp) (by simp) (by simp) (side_bonusCreate p hg') rfl
  | snakeMove id =>
    cases id <;> cases p <;> obtain rfl := Option.some_inj.1 h
    · exact .move rfl rfl rfl (stage_ifTwo rfl rfl)
    · rw [hp.ifTwo]
      exact idle (by simp) (by simp) (by simp) rfl rfl
    · exact idle (by simp) (by simp) (by simp) rfl rfl
    · exact .move rfl rfl rfl rfl
  | snakeDisp id =>
    cases id <;> obtain rfl := Option.some_inj.1 h
    · exact idle (by simp) (by simp) (by simp) rfl (stage_ifTwo rfl rfl)
    · exact idle (by simp) (by simp) (by simp) rfl rfl
  | wallCheck id =>
    obtain rfl := Option.some_inj.1 h
    by_cases hw : wallCheck id g = true
    · rw [if_pos hw]
      exact .ends (by simp) (by simp) (by simp) rfl rfl
    · rw [if_neg hw]
      cases id <;> cases p
      · exact .wall rfl rfl (by simpa using hw) rfl rfl
      · exact idle (by simp) (by simp) (by simp) rfl rfl
      · exact idle (by simp) (by simp) (by simp) rfl rfl
      · exact .wall rfl rfl (by simpa using hw) rfl rfl
  | crashCheck id =>
    obtain rfl := Option.some_inj.1 h
    by_cases hw : crashCheck (g.side id).snake = true
    · rw [if_pos hw]
      exact .ends (by simp) (by simp) (by simp) rfl rfl
    · rw [if_neg hw]
      cases id <;> cases p
      · exact .crash rfl rfl (by simpa using hw) rfl rfl
      · exact idle (by simp) (by simp) (by simp) rfl rfl
      · exact idle (by simp) (by simp) (by simp) rfl rfl
      · exact .crash rfl rfl (by simpa using hw) rfl rfl
  | bonusCheck id =>
    cases id <;> cases p <;> obtain rfl := Option.some_inj.1 h
    · exact .eat rfl rfl rfl (stage_ifTwo rfl rfl)
    · rw [hp.ifTwo]
      exact idle (by simp) (by simp) (by simp) (side_bonusCheck_ne g (by simp)) rfl
    · exact idle (by simp) (by simp) (by simp) (side_bonusCheck_ne g (by simp)) rfl
    · exact .eat rfl rfl rfl rfl
  | crashSnakeCheck id =>
    cases id <;> obtain rfl := Option.some_inj.1 h <;> split_ifs
    · exact .ends (by simp) (by simp) (by simp) rfl rfl
    · exact idle (by simp) (by simp) (by simp) rfl rfl
    · exact .ends (by simp) (by simp) (by simp) rfl rfl
    · exact idle (by simp) (by simp) (by simp) rfl rfl
  | epilogue =>
    obtain rfl := Option.some_inj.1 h
    exact .ends (by simp) (by simp) (by simp) rfl rfl
  | halt => cases h

section Own

variable {c c' : Config} {e : Input} {p : Player}

lemma side_of_initSnake (hp : Plays c.game p) (h : step c e = some c') (hpc : c.pc = .initSnake p) :
    c'.game.side p = (initSnake p c.game).side p := by
  cases step_turn hp h with
  | born _ side => exact side
  | move pc | wall pc | crash pc | eat pc => simp [hpc] at pc
  | idle init | ends init => exact absurd hpc init

lemma side_of_snakeMove (hp : Plays c.game p) (h : step c e = some c') (hpc : c.pc = .snakeMove p) :
    c'.game.side p = snakeMove (c.game.dirOf p) (c.game.side p) := by
  cases step_turn hp h with
  | move _ side => exact side
  | born pc | wall pc | crash pc | eat pc => simp [hpc] at pc
  | idle _ move | ends _ move => exact absurd hpc move

end Own

end UsbJoystick.Snake
