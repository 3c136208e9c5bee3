import UsbJoystick.Lib.Window
import UsbJoystick.Snake.Turns

/-!
A snake is the end of its own trail.

The abstract snake is a `Window` on the trail of its head: the positions it has ever been put
on, of which the last `3 + score` are its body. A move slides the window and a meal widens it.
The list of cells of the program follows that abstract snake (`Tracks`).

The difficulty is `snake_grow`, which runs when the old tail is already gone and computes the
position of the new cell from the `dir` of the first cell. The `dir` of every cell but the first
is that of the move that entered it (`Linked`); the first cell may have been made by
`snake_grow` itself, with a `dir` that never was. But a meal comes only after a move, and a move
has just dropped that cell. So after a move the cell behind the first one is the freed one, the
entry just outside the window, and it stays so until the meal (`Loose`).
-/

namespace UsbJoystick.Snake

open UsbJoystick.Lib

/-! ### The program's snake and the abstract snake -/

/-- The cells of a side show the window `w`, and its cached head is the last of them. -/
structure Tracks (w : Window (ℤ × ℤ)) (s : Side) : Prop where
  width : w.width = 3 + s.score
  cells : s.snake.map Pos.xy = w.seen
  linked : Linked s.snake
  last : s.snake.getLast? = some s.snakeEnd

/-- The cell behind the first one is the entry just outside the window. -/
def Loose (w : Window (ℤ × ℤ)) (s : Side) : Prop :=
  ∃ first rest, s.snake = first :: rest ∧ w.edge = some first.behind

section Tracks

variable {w : Window (ℤ × ℤ)} {s : Side}

lemma Tracks.length (h : Tracks w s) : s.snake.length = 3 + s.score := by
  rw [← List.length_map (f := Pos.xy), h.cells, w.seen_length, h.width]

lemma Tracks.exists_cons (h : Tracks w s) : ∃ a b rest, s.snake = a :: b :: rest := by
  have hlen := h.length
  rcases hs : s.snake with _ | ⟨a, _ | ⟨b, rest⟩⟩
  · simp [hs] at hlen; omega
  · simp [hs] at hlen; omega
  · exact ⟨a, b, rest, rfl⟩

/-- **A move slides the window**, and leaves the freed cell behind the new first one. -/
theorem Tracks.move (h : Tracks w s) (dir : Dir) :
    Tracks (w.slide (nextHead dir s).xy) (snakeMove dir s) ∧
      Loose (w.slide (nextHead dir s).xy) (snakeMove dir s) := by
  obtain ⟨a, b, rest, hs⟩ := h.exists_cons
  have hpos : 0 < w.width := by have := h.width; omega
  obtain ⟨hab, hlinked⟩ := linked_cons_cons.1 (hs ▸ h.linked)
  have hlast : (b :: rest).getLast? = some s.snakeEnd := by
    simpa [hs, List.getLast?_cons_cons] using h.last
  have hsnake : (snakeMove dir s).snake = b :: rest ++ [nextHead dir s] := by
    rw [snakeMove_eq, moveTo_snake _ _ (by simp [hs]), hs]
    rfl
  refine ⟨⟨?_, ?_, ?_, ?_⟩, b, rest ++ [nextHead dir s], hsnake, ?_⟩
  · rw [snakeMove_eq]
    exact h.width
  · rw [hsnake, w.seen_slide _ hpos, ← h.cells, hs]
    simp
  · rw [hsnake]
    exact hlinked.concat_advance hlast _
  · rw [hsnake, snakeMove_eq]
    exact List.getLast?_concat
  · rw [w.edge_slide _ hpos, ← h.cells, hs]
    exact congrArg some hab

/-- Growing shows the entry just outside the window again. -/
lemma Loose.snakeGrow (hl : Loose w s) {q : ℤ × ℤ} (hq : w.edge = some q) :
    (snakeGrow s.snake).map Pos.xy = q :: s.snake.map Pos.xy := by
  obtain ⟨first, rest, hs, hedge⟩ := hl
  rw [hs, snakeGrow_cons]
  simpa using Option.some_inj.1 (hedge.symm.trans hq)

/-- **A meal widens the window.** -/
theorem Tracks.eat (h : Tracks w s) (hl : Loose w s) :
    ∃ w' : Window (ℤ × ℤ), w'.past = w.past ∧
      Tracks w' { s with score := s.score + 1, snake := snakeGrow s.snake } := by
  obtain ⟨first, rest, hs, hedge⟩ := id hl
  refine ⟨w.widen (w.lt_length_of_edge hedge), rfl, ?_, ?_, ?_, ?_⟩
  · show w.width + 1 = 3 + (s.score + 1)
    rw [h.width]
    rfl
  · rw [w.seen_widen _ hedge, ← h.cells]
    exact hl.snakeGrow hedge
  · show Linked (snakeGrow s.snake)
    rw [hs, snakeGrow_cons]
    exact Linked.regrow (hs ▸ h.linked)
  · show (snakeGrow s.snake).getLast? = some s.snakeEnd
    rw [hs, snakeGrow_cons, List.getLast?_cons_cons, ← hs]
    exact h.last

end Tracks

def initWindow (row : ℤ) : Window (ℤ × ℤ) := ⟨(initCells row).map Pos.xy, 3, le_rfl⟩

lemma tracks_initSnake (p : Player) (g : Game) (h0 : (g.side p).score = 0) :
    Tracks (initWindow (initRow p g)) ((initSnake p g).side p) := by
  unfold initSnake
  rw [side_setSide_self]
  refine ⟨?_, rfl, ?_, rfl⟩
  · simp [initWindow, h0]
  · have hcells : ∀ y : ℤ, Follows ⟨initRow p g, y, .right⟩ ⟨initRow p g, y + 1, .right⟩ := by
      intro y
      simp [Follows, Pos.behind, Pos.xy, Dir.opp, Dir.ahead]
    exact linked_cons_cons.2 ⟨hcells 1, linked_cons_cons.2 ⟨hcells 2, List.isChain_singleton _⟩⟩

/-! ### The invariant -/

/-- What holds of the player `p` at every program point, with `T` the trail of its head so far
and `F` the positions that `head_del` has freed. -/
def Fit (p : Player) (T F : List (ℤ × ℤ)) (c : Config) : Prop :=
  match stage p c.pc with
  | .unborn => T = [] ∧ (c.game.side p).score = 0
  | .rested => ∃ w : Window (ℤ × ℤ), w.past = T ∧ Tracks w (c.game.side p)
  | .moved | .walled | .judged => ∃ w : Window (ℤ × ℤ), w.past = T ∧ Tracks w (c.game.side p) ∧
      Loose w (c.game.side p) ∧ F.getLast? = w.edge
  | .ended => True

section Step

variable {p : Player} {T F : List (ℤ × ℤ)} {c c' : Config} {e : Input}

lemma fit_unborn (h : stage p c.pc = .unborn) :
    Fit p T F c ↔ T = [] ∧ (c.game.side p).score = 0 := by rw [Fit, h]

lemma fit_rested (h : stage p c.pc = .rested) :
    Fit p T F c ↔ ∃ w : Window (ℤ × ℤ), w.past = T ∧ Tracks w (c.game.side p) := by rw [Fit, h]

lemma fit_between (h : stage p c.pc = .moved ∨ stage p c.pc = .walled ∨ stage p c.pc = .judged) :
    Fit p T F c ↔ ∃ w : Window (ℤ × ℤ), w.past = T ∧ Tracks w (c.game.side p) ∧
      Loose w (c.game.side p) ∧ F.getLast? = w.edge := by
  rcases h with h | h | h <;> rw [Fit, h]

lemma written_eq_nil (h1 : c.pc ≠ .initSnake p) (h2 : c.pc ≠ .snakeMove p) :
    written p c e = [] := by simp [written, h1, h2]

lemma freed_eq_nil (h : c.pc ≠ .snakeMove p) : freed p c e = [] := by simp [freed, h]

/-- **One step keeps `Fit`.** -/
theorem Fit.step (hp : Plays c.game p) (h : Fit p T F c) (hstep : step c e = some c') :
    Fit p (T ++ written p c e) (F ++ freed p c e) c' := by
  -- the statements that neither make nor move the snake write nothing and free nothing
  have quiet : c.pc ≠ .initSnake p → c.pc ≠ .snakeMove p → Fit p T F c' →
      Fit p (T ++ written p c e) (F ++ freed p c e) c' := by
    intro h1 h2 h'
    rwa [written_eq_nil h1 h2, freed_eq_nil h2, List.append_nil, List.append_nil]
  cases step_turn hp hstep with
  | born pc side before after =>
    obtain ⟨rfl, h0⟩ := (fit_unborn before).1 h
    have hw : written p c e = ((initSnake p c.game).side p).snake.map Pos.xy := if_pos pc
    refine (fit_rested after).2 ⟨initWindow (initRow p c.game), ?_, ?_⟩
    · rw [hw, List.nil_append, (tracks_initSnake p c.game h0).cells]
      rfl
    · rw [side]
      exact tracks_initSnake p c.game h0
  | move pc side before after =>
    obtain ⟨w, rfl, hw⟩ := (fit_rested before).1 h
    obtain ⟨a, b, rest, hs⟩ := hw.exists_cons
    have hwr : written p c e = [(nextHead (c.game.dirOf p) (c.game.side p)).xy] := by
      simp [written, pc, snakeMove_eq]
    have hfr : freed p c e = [a.xy] := by simp [freed, pc, hs]
    obtain ⟨htracks, hloose⟩ := hw.move (c.game.dirOf p)
    refine (fit_between (Or.inl after)).2 ⟨w.slide _, ?_, side ▸ htracks, side ▸ hloose, ?_⟩
    · rw [hwr]
      rfl
    · rw [hfr, List.getLast?_concat, w.edge_slide _ (by have := hw.width; omega), ← hw.cells, hs]
      rfl
  | wall pc game ok before after =>
    refine quiet (by simp [pc]) (by simp [pc]) ((fit_between (Or.inr (Or.inl after))).2 ?_)
    rw [game]
    exact (fit_between (Or.inl before)).1 h
  | crash pc game ok before after =>
    refine quiet (by simp [pc]) (by simp [pc]) ((fit_between (Or.inr (Or.inr after))).2 ?_)
    rw [game]
    exact (fit_between (Or.inr (Or.inl before))).1 h
  | eat pc game before after =>
    refine quiet (by simp [pc]) (by simp [pc]) ((fit_rested after).2 ?_)
    obtain ⟨w, rfl, hw, hl, -⟩ := (fit_between (Or.inr (Or.inr before))).1 h
    rw [game]
    rcases bonusCheck_cases c.game p with ⟨-, hg⟩ | ⟨i, -, hg⟩ <;> rw [hg]
    · exact ⟨w, rfl, hw⟩
    · obtain ⟨w', hpast, hw'⟩ := hw.eat hl
      refine ⟨w', hpast, ?_⟩
      show Tracks w' ((c.game.setSide p _).side p)
      rw [side_setSide_self]
      exact hw'
  | idle init move eat side same =>
    refine quiet init move ?_
    unfold Fit at *
    rwa [same, side]
  | ends init move eat side after => simp [Fit, after]

end Step

/-! ### Every run -/

section Run

variable {arg : List Char} {ch2 : ℤ} {es : List Input} {c : Config} {p : Player}

/-- The trail of the head of `p` in a run: the cells of `init_snake`, and then every head that
`tail_add` wrote. -/
def trail (p : Player) (c₀ : Config) (es : List Input) : List (ℤ × ℤ) :=
  main.log (written p) c₀ es

def freedTrail (p : Player) (c₀ : Config) (es : List Input) : List (ℤ × ℤ) :=
  main.log (freed p) c₀ es

/-- **Every run keeps `Fit`**: the snake follows the trail that the run has written. -/
theorem run_fit (hrun : main.run (initial arg ch2) es = some c) (hp : Plays c.game p) :
    Fit p (trail p (initial arg ch2) es) (freedTrail p (initial arg ch2) es) c := by
  refine Machine.run_induction (P := fun es c => Plays c.game p →
    Fit p (trail p (initial arg ch2) es) (freedTrail p (initial arg ch2) es) c) ?_ ?_ hrun hp
  · intro _
    exact (fit_unborn rfl).2 ⟨rfl, by cases p <;> rfl⟩
  · intro es c e c' hrun hfit hstep hp
    have hp' := (step_plays hstep p).1 hp
    rw [trail, freedTrail, Machine.log_snoc _ hrun, Machine.log_snoc _ hrun]
    exact (hfit hp').step hp' hstep

/-- **A snake is the end of its trail.** At the end of every frame that does not end the game,
the cells of a player lie on the last `3 + score` positions of its trail, in order, and
`snake_end` is the last cell of the list. And when `bonus_check` is about to run, `snake_grow`
would put the new cell on the position that `head_del` has just freed. -/
theorem snake_is_end_of_trail (hrun : main.run (initial arg ch2) es = some c)
    (hp : Plays c.game p) :
    (c.pc = .refresh →
      (c.game.side p).snake.map Pos.xy =
          (trail p (initial arg ch2) es).rtake (3 + (c.game.side p).score) ∧
        3 + (c.game.side p).score ≤ (trail p (initial arg ch2) es).length ∧
        (c.game.side p).snake.getLast? = some (c.game.side p).snakeEnd) ∧
    (c.pc = .bonusCheck p →
      ∃ q, (freedTrail p (initial arg ch2) es).getLast? = some q ∧
        (snakeGrow (c.game.side p).snake).map Pos.xy = q :: (c.game.side p).snake.map Pos.xy) := by
  have hfit := run_fit hrun hp
  constructor
  · intro hpc
    obtain ⟨w, hpast, hw⟩ := (fit_rested (by rw [hpc]; rfl)).1 hfit
    rw [← hpast, ← hw.width]
    exact ⟨hw.cells, w.full, hw.last⟩
  · intro hpc
    have hjudged : stage p c.pc = .judged := by rw [hpc]; cases p <;> rfl
    obtain ⟨w, -, -, hloose, hlast⟩ := (fit_between (Or.inr (Or.inr hjudged))).1 hfit
    obtain ⟨first, rest, -, hedge⟩ := id hloose
    exact ⟨first.behind, hlast.trans hedge, hloose.snakeGrow hedge⟩

end Run

theorem snake_is_end_of_trail_square : ∃ c, main.run (initial ['1'] 0) squareRun = some c ∧
    c.pc = .refresh ∧ c.game.one.score = 2 ∧
    c.game.one.snake.map Pos.xy = (trail .one (initial ['1'] 0) squareRun).rtake 5 := by
  have h : (main.run (initial ['1'] 0) squareRun).map (fun c => (c.pc, c.game.one.score)) =
      some (.refresh, 2) := by decide +kernel
  obtain ⟨c, hc, hpc⟩ := Option.map_eq_some_iff.1 h
  obtain ⟨hpc, hscore⟩ := Prod.mk_inj.1 hpc
  have hcells := ((snake_is_end_of_trail (p := .one) hc (Or.inl rfl)).1 hpc).1
  exact ⟨c, hc, hpc, hscore, by rw [← show 3 + c.game.one.score = 5 by omega]; exact hcells⟩

end UsbJoystick.Snake
