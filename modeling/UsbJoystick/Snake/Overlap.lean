import UsbJoystick.Snake.Trail

/-!
When a snake overlaps itself.

`crash_check` compares all pairs of cells, between the move and the meal of a frame. What it
judges is therefore the list without the cell that the meal may put back. Two invariants come
out of that:

* `Neat`: only the first cell of a list can lie on the position of another cell, and only a
  meal can make it so. After a move, every overlap involves the new head.
* `Clean`: as long as no meal takes place on the very cell that the tail has just left, the
  cells are pairwise distinct at the end of every frame.

A meal on that cell does break it: the head has entered the cell, `crash_check` has found
nothing since the tail is gone, and `snake_grow` puts the tail back under the head.
-/

namespace UsbJoystick.Snake

open UsbJoystick.Lib

/-! ### Only the first cell can be doubled -/

/-- What the checks passed so far say about the overlaps of the player `p`. -/
def Neat (p : Player) (c : Config) : Prop :=
  match stage p c.pc with
  | .rested => ((c.game.side p).snake.map Pos.xy).tail.Nodup
  | .moved | .walled => ((c.game.side p).snake.map Pos.xy).dropLast.Nodup
  | .judged => ((c.game.side p).snake.map Pos.xy).Nodup
  | .unborn | .ended => True

section Neat

variable {p : Player} {c c' : Config} {e : Input}

lemma neat_rested (h : stage p c.pc = .rested) :
    Neat p c ↔ ((c.game.side p).snake.map Pos.xy).tail.Nodup := by rw [Neat, h]

lemma neat_moved (h : stage p c.pc = .moved ∨ stage p c.pc = .walled) :
    Neat p c ↔ ((c.game.side p).snake.map Pos.xy).dropLast.Nodup := by
  rcases h with h | h <;> rw [Neat, h]

lemma neat_judged (h : stage p c.pc = .judged) :
    Neat p c ↔ ((c.game.side p).snake.map Pos.xy).Nodup := by rw [Neat, h]

lemma dropLast_snakeMove (dir : Dir) (s : Side) :
    ((snakeMove dir s).snake.map Pos.xy).dropLast = (s.snake.map Pos.xy).tail := by
  rw [snakeMove_eq]
  rcases hs : s.snake with _ | ⟨a, rest⟩
  · simp [moveTo, tailAdd, headDel, hs]
  · simp [moveTo_snake _ s (by simp [hs]), hs]

lemma tail_snakeGrow (l : List Pos) : ((snakeGrow l).map Pos.xy).tail = l.map Pos.xy := by
  cases l with
  | nil => rfl
  | cons a rest => rw [snakeGrow_cons]; rfl

theorem Neat.step (hp : Plays c.game p) (h : Neat p c) (hstep : step c e = some c') :
    Neat p c' := by
  cases step_turn hp hstep with
  | born pc side before after =>
    rw [neat_rested after, side, initSnake, side_setSide_self]
    simp [initCells, headAdd, Pos.xy]
  | move pc side before after =>
    rw [neat_moved (Or.inl after), side, dropLast_snakeMove]
    exact (neat_rested before).1 h
  | wall pc game ok before after =>
    rw [neat_moved (Or.inr after), game]
    exact (neat_moved (Or.inl before)).1 h
  | crash pc game ok before after =>
    rw [neat_judged after, game]
    exact crashCheck_eq_false.1 ok
  | eat pc game before after =>
    have hnodup := (neat_judged before).1 h
    rw [neat_rested after, game]
    rcases side_bonusCheck_self c.game p with ⟨-, hs⟩ | ⟨-, hs⟩ <;> rw [hs]
    · exact hnodup.tail
    · rw [tail_snakeGrow]
      exact hnodup
  | idle init move eat side same =>
    unfold Neat at *
    rwa [same, side]
  | ends init move eat side after => simp [Neat, after]

end Neat

section Run

variable {arg : List Char} {ch2 : ℤ} {es : List Input} {c : Config} {p : Player}

theorem run_neat (hrun : main.run (initial arg ch2) es = some c) (hp : Plays c.game p) :
    Neat p c := by
  refine Machine.run_inv (I := fun c => Plays c.game p → Neat p c) ?_ ?_ hrun hp
  · intro _
    simp [Neat, initial, stage]
  · intro c e c' hneat hstep hp
    have hp' := (step_plays hstep p).1 hp
    exact (hneat hp').step hp' hstep

end Run

/-! ### Meals on the cell that the tail has left -/

/-- `bonus_check(p)` is about to run with a slot under the head, and the head is on the cell
behind the first one, which is the cell that the tail of `p` has just left. -/
def EatsOnTail (p : Player) (c : Config) : Prop :=
  c.pc = .bonusCheck p ∧ (∃ i ∈ c.game.slots, onHead p c.game i = true) ∧
    ∃ first ∈ (c.game.side p).snake.head?, (c.game.side p).snakeEnd.xy = first.behind

instance (p : Player) (c : Config) : Decidable (EatsOnTail p c) := by
  unfold EatsOnTail; infer_instance

/-- The cells are distinct; after a move, so are the ones that the move keeps and the freed
one. -/
def Clean (p : Player) (c : Config) : Prop :=
  match stage p c.pc with
  | .rested => ((c.game.side p).snake.map Pos.xy).Nodup
  | .moved | .walled | .judged =>
    ((snakeGrow (c.game.side p).snake).map Pos.xy).dropLast.Nodup
  | .unborn | .ended => True

section Clean

variable {p : Player} {T F : List (ℤ × ℤ)} {c c' : Config} {e : Input}

lemma clean_rested (h : stage p c.pc = .rested) :
    Clean p c ↔ ((c.game.side p).snake.map Pos.xy).Nodup := by rw [Clean, h]

lemma clean_between (h : stage p c.pc = .moved ∨ stage p c.pc = .walled ∨ stage p c.pc = .judged) :
    Clean p c ↔ ((snakeGrow (c.game.side p).snake).map Pos.xy).dropLast.Nodup := by
  rcases h with h | h | h <;> rw [Clean, h]

/-- After a move, growing would give the cells before the move and the new head. -/
lemma map_snakeGrow_snakeMove {w : Window (ℤ × ℤ)} {s : Side} (hw : Tracks w s) (dir : Dir) :
    (snakeGrow (snakeMove dir s).snake).map Pos.xy =
      s.snake.map Pos.xy ++ [(nextHead dir s).xy] := by
  obtain ⟨a, b, rest, hs⟩ := hw.exists_cons
  have hloose := (hw.move dir).2
  have hedge := w.edge_slide (nextHead dir s).xy (by have := hw.width; omega)
  rw [← hw.cells, hs] at hedge
  rw [hloose.snakeGrow hedge, snakeMove_eq, moveTo_snake _ _ (by simp [hs]), hs]
  simp

/-- **What a meal does to distinct cells**: the regrown cell lies on another one exactly when
the head is on the cell that the tail has just left. -/
lemma nodup_snakeGrow {s : Side} {w : Window (ℤ × ℤ)} (hw : Tracks w s)
    (hnodup : (s.snake.map Pos.xy).Nodup)
    (hclean : ((snakeGrow s.snake).map Pos.xy).dropLast.Nodup) :
    ((snakeGrow s.snake).map Pos.xy).Nodup ↔
      ¬ ∃ first ∈ s.snake.head?, s.snakeEnd.xy = first.behind := by
  obtain ⟨a, b, rest, hs⟩ := hw.exists_cons
  have hgrow : (snakeGrow s.snake).map Pos.xy = a.behind :: s.snake.map Pos.xy := by
    rw [hs, snakeGrow_cons]
    rfl
  have hlast : (s.snake.map Pos.xy).dropLast ++ [s.snakeEnd.xy] = s.snake.map Pos.xy :=
    List.dropLast_append_getLast? _ (by simp [hw.last])
  rw [hgrow, List.dropLast_cons_of_ne_nil (by simp [hs])] at hclean
  have hnotin : a.behind ∉ (s.snake.map Pos.xy).dropLast := (List.nodup_cons.1 hclean).1
  rw [hgrow, List.nodup_cons, and_iff_left hnodup, ← hlast, List.mem_append, not_or,
    and_iff_right hnotin]
  simp [hs, eq_comm]

/-- One step keeps `Clean`, unless it is a meal on the cell that the tail has just left. -/
theorem Clean.step (hp : Plays c.game p) (hfit : Fit p T F c) (hneat : Neat p c)
    (hC : ¬ EatsOnTail p c) (h : Clean p c) (hstep : step c e = some c') : Clean p c' := by
  cases step_turn hp hstep with
  | born pc side before after =>
    rw [clean_rested after, side, initSnake, side_setSide_self]
    simp [initCells, headAdd, Pos.xy]
  | move pc side before after =>
    obtain ⟨w, -, hw⟩ := (fit_rested before).1 hfit
    rw [clean_between (Or.inl after), side, map_snakeGrow_snakeMove hw, List.dropLast_concat]
    exact (clean_rested before).1 h
  | wall pc game ok before after =>
    rw [clean_between (Or.inr (Or.inl after)), game]
    exact (clean_between (Or.inl before)).1 h
  | crash pc game ok before after =>
    rw [clean_between (Or.inr (Or.inr after)), game]
    exact (clean_between (Or.inr (Or.inl before))).1 h
  | eat pc game before after =>
    have hnodup := (neat_judged before).1 hneat
    obtain ⟨w, -, hw, -⟩ := (fit_between (Or.inr (Or.inr before))).1 hfit
    have hclean := (clean_between (Or.inr (Or.inr before))).1 h
    rw [clean_rested after, game]
    rcases side_bonusCheck_self c.game p with ⟨-, hs⟩ | ⟨hhit, hs⟩ <;> rw [hs]
    · exact hnodup
    · exact (nodup_snakeGrow hw hnodup hclean).2 fun hfirst => hC ⟨pc, hhit, hfirst⟩
  | idle init move eat side same =>
    unfold Clean at *
    rwa [same, side]
  | ends init move eat side after => simp [Clean, after]

end Clean

section Run

variable {arg : List Char} {ch2 : ℤ} {es : List Input} {c : Config} {p : Player}

theorem run_clean (hC : main.Along (fun c _ => ¬ EatsOnTail p c) (initial arg ch2) es)
    (hrun : main.run (initial arg ch2) es = some c) (hp : Plays c.game p) : Clean p c := by
  refine Machine.along_induction (P := fun _ c => Plays c.game p → Clean p c) ?_ ?_ hC hrun hp
  · intro _
    simp [Clean, initial, stage]
  · intro es c e c' hrun hclean hCe hstep hp
    have hp' := (step_plays hstep p).1 hp
    exact (hclean hp').step hp' (run_fit hrun hp') (run_neat hrun hp') hCe hstep

/-- **Cells stay distinct unless a meal takes place on the cell that the tail has just left.** In
a run without such a meal the cells of every snake are pairwise distinct at the end of every
frame that does not end the game, so that `crash_check` would still answer 0; and in such a run
the next `bonus_check` leaves them distinct exactly when it is not such a meal. -/
theorem cells_distinct_unless_eats_on_tail
    (hC : main.Along (fun c _ => ∀ p, ¬ EatsOnTail p c) (initial arg ch2) es)
    (hrun : main.run (initial arg ch2) es = some c) (hp : Plays c.game p) :
    (c.pc = .refresh → ((c.game.side p).snake.map Pos.xy).Nodup ∧
      crashCheck (c.game.side p).snake = false) ∧
    (c.pc = .bonusCheck p →
      (crashCheck ((bonusCheck p c.game).side p).snake = false ↔ ¬ EatsOnTail p c)) := by
  have hclean := run_clean (fun x hx => hC x hx p) hrun hp
  constructor
  · intro hpc
    have hnodup := (clean_rested (by rw [hpc]; rfl)).1 hclean
    exact ⟨hnodup, crashCheck_eq_false.2 hnodup⟩
  · intro hpc
    have hjudged : stage p c.pc = .judged := by rw [hpc]; cases p <;> rfl
    have hnodup := (neat_judged hjudged).1 (run_neat hrun hp)
    obtain ⟨w, -, hw, -⟩ := (fit_between (Or.inr (Or.inr hjudged))).1 (run_fit hrun hp)
    have hgrown := (clean_between (Or.inr (Or.inr hjudged))).1 hclean
    rw [crashCheck_eq_false]
    rcases side_bonusCheck_self c.game p with ⟨hhit, hs⟩ | ⟨hhit, hs⟩ <;> rw [hs]
    · refine iff_of_true hnodup ?_
      rintro ⟨-, ⟨i, hi, hon⟩, -⟩
      simp [hhit i hi] at hon
    · rw [nodup_snakeGrow hw hnodup hgrown, EatsOnTail, and_iff_right hpc, and_iff_right hhit]

end Run

/-- The square of `squareRun`, with a second bonus drawn where the first one was. -/
def tailRun : List Input :=
  (gameInputs 1 (8, 8) ['3'] [(40, -1, 1, 1, 0), (48, -1, 0, 0, 0), (36, -1, 0, 0, 0),
    (34, -1, 0, 0, 0), (40, -1, 1, 1, 0)]).dropLast

theorem cells_distinct_unless_eats_on_tail_two_frames :
    ∃ c, main.run (initial ['1'] 0) (tailRun.take 36) = some c ∧ c.pc = .refresh ∧
      c.game.one.score = 1 ∧ (c.game.one.snake.map Pos.xy).Nodup := by
  have h : (main.run (initial ['1'] 0) (tailRun.take 36)).map
      (fun c => (c.pc, c.game.one.score)) = some (.refresh, 1) := by decide +kernel
  have hC : main.Along (fun c _ => ∀ p, ¬ EatsOnTail p c) (initial ['1'] 0)
      (tailRun.take 36) := by
    unfold Machine.Along
    decide +kernel
  obtain ⟨c, hc, hpc⟩ := Option.map_eq_some_iff.1 h
  obtain ⟨hpc, hscore⟩ := Prod.mk_inj.1 hpc
  have hdistinct := (cells_distinct_unless_eats_on_tail (p := .one) hC hc (Or.inl rfl)).1 hpc
  exact ⟨c, hc, hpc, hscore, hdistinct.1⟩

/-- **The cells of a snake can overlap at the end of a frame**: in `tailRun` the head enters the
cell that the tail leaves and finds a bonus there. -/
theorem cells_overlap_after_meal_on_tail :
    ¬ ∀ (arg : List Char) (ch2 : ℤ) (es : List Input) (c : Config) (p : Player),
      main.run (initial arg ch2) es = some c → Plays c.game p → c.pc = .refresh →
        crashCheck (c.game.side p).snake = false := by
  intro hall
  have h : (main.run (initial ['1'] 0) tailRun).map
      (fun c => (c.pc, crashCheck (c.game.side .one).snake)) = some (.refresh, true) := by
    decide +kernel
  obtain ⟨c, hc, hpc⟩ := Option.map_eq_some_iff.1 h
  obtain ⟨hpc, hcrash⟩ := Prod.mk_inj.1 hpc
  have hfalse := hall ['1'] 0 tailRun c .one hc (Or.inl rfl) hpc
  rw [hcrash] at hfalse
  cases hfalse

end UsbJoystick.Snake
