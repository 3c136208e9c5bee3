import UsbJoystick.Snake.Bonus
import UsbJoystick.Snake.Overlap
import UsbJoystick.Snake.Screen

/-!
The snakes stay inside the walls, and what follows for the score.

Only the head is ever compared with the walls. But a snake is the end of its trail, and every
position of the trail has been the head of some frame: if the window keeps its size, the whole
trail is inside (`Within`), and a cell that `snake_grow` puts back is on the trail as well.

A snake that passes `crash_check` has distinct cells inside the walls, so it is at most as long
as there is room. This is the only thing that bounds the score (`run_score`): the meal that
follows the check can be one more than that.
-/

namespace UsbJoystick.Snake

open UsbJoystick.Lib

/-! ### The board -/

/-- The positions inside the walls of a window of `Y` rows and `X` columns. -/
noncomputable def board (Y X : ℤ) : Finset (ℤ × ℤ) := Finset.Icc 2 (Y - 3) ×ˢ Finset.Icc 1 (X - 2)

def Rim (Y X : ℤ) (q : ℤ × ℤ) : Prop := 1 ≤ q.1 ∧ q.1 ≤ Y - 2 ∧ 0 ≤ q.2 ∧ q.2 ≤ X - 1

section Board

variable {Y X : ℤ} {q : ℤ × ℤ}

lemma mem_board : q ∈ board Y X ↔ (2 ≤ q.1 ∧ q.1 ≤ Y - 3) ∧ 1 ≤ q.2 ∧ q.2 ≤ X - 2 := by
  simp [board]

lemma card_board (hY : 5 ≤ Y) (hX : 5 ≤ X) : ((board Y X).card : ℤ) = (X - 2) * (Y - 4) := by
  rw [board, Finset.card_product, Int.card_Icc, Int.card_Icc, Nat.cast_mul, mul_comm,
    Int.toNat_of_nonneg (by omega), Int.toNat_of_nonneg (by omega)]
  ring

lemma rim_ahead (h : q ∈ board Y X) (d : Dir) : Rim Y X (d.ahead q) := by
  obtain ⟨⟨h1, h2⟩, h3, h4⟩ := mem_board.1 h
  cases d <;> simp only [Rim, Dir.ahead] <;> omega

lemma mem_board_initCells (hX : 5 ≤ X) {row : ℤ} (h2 : 2 ≤ row) (h3 : row ≤ Y - 3)
    (hq : q ∈ (initCells row).map Pos.xy) : q ∈ board Y X := by
  simp only [initCells, headAdd, Pos.xy, List.map_cons, List.map_nil, List.mem_cons,
    List.not_mem_nil, or_false] at hq
  rw [mem_board]
  rcases hq with rfl | rfl | rfl <;> omega

/-- `wall_check` answers 0 on the positions inside the walls. -/
lemma wallCheck_eq_false {p : Player} {g : Game} :
    wallCheck p g = false ↔ (g.side p).snakeEnd.xy ∈ board g.maxY g.maxX := by
  rw [mem_board]
  simp only [wallCheck, Pos.xy, Bool.or_eq_false_iff, decide_eq_false_iff_not]
  omega

/-- **`wall_check` answers 1 on the border that `UI_draw` draws**, for a head that is inside the
walls or on them. -/
lemma wallCheck_eq_true_iff {p : Player} {g : Game} (hY : 5 ≤ g.maxY) (hX : 5 ≤ g.maxX)
    (hrim : Rim g.maxY g.maxX (g.side p).snakeEnd.xy) :
    wallCheck p g = true ↔ HashAt (drawn g) (g.side p).snakeEnd.xy := by
  obtain ⟨h1, h2, h3, h4⟩ := hrim
  rw [← Bool.not_eq_false, wallCheck_eq_false, mem_board, hashAt_drawn hY hX]
  omega

end Board

/-! ### The trail -/

/-- The trail `T` of the player `p` is inside the walls; after a move, up to the new head. -/
def Within (Y X : ℤ) (p : Player) (T : List (ℤ × ℤ)) (c : Config) : Prop :=
  match stage p c.pc with
  | .rested | .walled | .judged => ∀ q ∈ T, q ∈ board Y X
  | .moved => (∀ q ∈ T.dropLast, q ∈ board Y X) ∧ Rim Y X (c.game.side p).snakeEnd.xy
  | .unborn | .ended => True

section Within

variable {Y X : ℤ} {p : Player} {T F : List (ℤ × ℤ)} {c c' : Config} {e : Input}

lemma within_settled
    (h : stage p c.pc = .rested ∨ stage p c.pc = .walled ∨ stage p c.pc = .judged) :
    Within Y X p T c ↔ ∀ q ∈ T, q ∈ board Y X := by
  rcases h with h | h | h <;> rw [Within, h]

lemma within_moved (h : stage p c.pc = .moved) : Within Y X p T c ↔
    (∀ q ∈ T.dropLast, q ∈ board Y X) ∧ Rim Y X (c.game.side p).snakeEnd.xy := by rw [Within, h]

lemma Tracks.getLast?_past {w : Window (ℤ × ℤ)} {s : Side} (h : Tracks w s) :
    w.past.getLast? = some s.snakeEnd.xy := by
  rw [← w.getLast?_seen (by have := h.width; omega), ← h.cells, List.getLast?_map, h.last]
  rfl

lemma Tracks.mem_past {w : Window (ℤ × ℤ)} {s : Side} (h : Tracks w s) {q : ℤ × ℤ}
    (hq : q ∈ s.snake.map Pos.xy) : q ∈ w.past := w.mem_past_of_mem_seen (h.cells ▸ hq)

/-- **One step keeps the trail inside the walls.** -/
theorem Within.step (hY : 5 ≤ Y) (hX : 5 ≤ X) (hp : Plays c.game p) (hfit : Fit p T F c)
    (hsize : Sized c.pc → c.game.maxY = Y ∧ c.game.maxX = X) (h : Within Y X p T c)
    (hstep : step c e = some c') : Within Y X p (T ++ written p c e) c' := by
  have quiet : c.pc ≠ .initSnake p → c.pc ≠ .snakeMove p → Within Y X p T c' →
      Within Y X p (T ++ written p c e) c' := by
    intro h1 h2 h'
    rwa [written_eq_nil h1 h2, List.append_nil]
  cases step_turn hp hstep with
  | born pc side before after =>
    obtain ⟨rfl, h0⟩ := (fit_unborn before).1 hfit
    obtain ⟨hmaxY, -⟩ := hsize (by rw [pc]; trivial)
    rw [within_settled (Or.inl after), List.nil_append, written, if_pos pc,
      (tracks_initSnake p c.game h0).cells]
    intro q hq
    have hq : q ∈ (initCells (initRow p c.game)).map Pos.xy := hq
    cases p with
    | one => exact mem_board_initCells hX le_rfl (by omega) hq
    | two =>
      have hrow : initRow .two c.game = Y - 3 := by rw [← hmaxY]; rfl
      rw [hrow] at hq
      exact mem_board_initCells hX (by omega) le_rfl hq
  | move pc side before after =>
    obtain ⟨w, rfl, hw⟩ := (fit_rested before).1 hfit
    have hin := (within_settled (Or.inl before)).1 h
    have hwr : written p c e = [(nextHead (c.game.dirOf p) (c.game.side p)).xy] := by
      simp [written, pc, snakeMove_eq]
    rw [within_moved after, hwr, List.dropLast_concat]
    refine ⟨hin, ?_⟩
    rw [side, snakeMove_eq]
    exact rim_ahead (hin _ (List.mem_of_getLast? hw.getLast?_past)) _
  | wall pc game ok before after =>
    refine quiet (by simp [pc]) (by simp [pc]) ((within_settled (Or.inr (Or.inl after))).2 ?_)
    obtain ⟨w, rfl, hw, -⟩ := (fit_between (Or.inl before)).1 hfit
    obtain ⟨hmaxY, hmaxX⟩ := hsize (by rw [pc]; trivial)
    have hhead := wallCheck_eq_false.1 ok
    intro q hq
    rw [← List.dropLast_append_getLast? _ hw.getLast?_past, List.mem_append,
      List.mem_singleton] at hq
    rcases hq with hq | rfl
    · exact ((within_moved before).1 h).1 q hq
    · rwa [hmaxY, hmaxX] at hhead
  | crash pc game ok before after =>
    refine quiet (by simp [pc]) (by simp [pc]) ((within_settled (Or.inr (Or.inr after))).2 ?_)
    exact (within_settled (Or.inr (Or.inl before))).1 h
  | eat pc game before after =>
    refine quiet (by simp [pc]) (by simp [pc]) ((within_settled (Or.inl after)).2 ?_)
    exact (within_settled (Or.inr (Or.inr before))).1 h
  | idle init move eat side same =>
    refine quiet init move ?_
    unfold Within at *
    rwa [same, side]
  | ends init move eat side after => simp [Within, after]

end Within

section Run

variable {Y X : ℤ} {arg : List Char} {ch2 : ℤ} {es : List Input} {c : Config} {p : Player}

theorem run_within (hY : 5 ≤ Y) (hX : 5 ≤ X)
    (hwin : main.Along (KeepsWindow Y X) (initial arg ch2) es)
    (hrun : main.run (initial arg ch2) es = some c) (hp : Plays c.game p) :
    Within Y X p (trail p (initial arg ch2) es) c := by
  refine Machine.run_induction (P := fun es c => main.Along (KeepsWindow Y X) (initial arg ch2) es →
    Plays c.game p → Within Y X p (trail p (initial arg ch2) es) c) ?_ ?_ hrun hwin hp
  · intro _ _
    simp [Within, initial, stage]
  · intro es c e c' hrun hind hstep hwin hp
    have hp' := (step_plays hstep p).1 hp
    have hwin' := ((Machine.along_snoc hrun).1 hwin).1
    rw [trail, Machine.log_snoc (written p) hrun]
    exact (hind hwin' hp').step hY hX hp' (run_fit hrun hp') (run_sized hwin' hrun) hstep

/-- **The snakes stay inside the walls**, all their cells, in a window that keeps its size; and
`wall_check` answers 1 exactly when the new head is on a `#` of the frame, all of which
`UI_draw` has drawn (`run_framed`). -/
theorem snakes_inside_walls (hY : 5 ≤ Y) (hX : 5 ≤ X)
    (hwin : main.Along (KeepsWindow Y X) (initial arg ch2) es)
    (hrun : main.run (initial arg ch2) es = some c) (p : Player) :
    (c.pc = .refresh → Plays c.game p → ∀ a ∈ (c.game.side p).snake,
      2 ≤ a.x ∧ a.x ≤ Y - 3 ∧ 1 ≤ a.y ∧ a.y ≤ X - 2) ∧
    (c.pc = .wallCheck p →
      (wallCheck p c.game = true ↔ HashAt c.game (c.game.side p).snakeEnd.xy)) := by
  constructor
  · intro hpc hp a ha
    have hrested : stage p c.pc = .rested := by rw [hpc]; rfl
    obtain ⟨w, hpast, hw⟩ := (fit_rested hrested).1 (run_fit hrun hp)
    have hin := (within_settled (Or.inl hrested)).1 (run_within hY hX hwin hrun hp)
    obtain ⟨⟨h1, h2⟩, h3, h4⟩ :=
      mem_board.1 (hin a.xy (hpast ▸ hw.mem_past (List.mem_map_of_mem ha)))
    exact ⟨h1, h2, h3, h4⟩
  · intro hpc
    have hmoved : stage p c.pc = .moved := by rw [hpc]; cases p <;> rfl
    have hp := run_plays hrun .wallCheck hpc trivial
    obtain ⟨-, hrim⟩ := (within_moved hmoved).1 (run_within hY hX hwin hrun hp)
    obtain ⟨rfl, rfl⟩ := run_sized hwin hrun (by rw [hpc]; trivial)
    rw [run_framed hrun (by rw [hpc]; trivial), wallCheck_eq_true_iff hY hX hrim]

theorem snakes_inside_walls_square :
    ∃ c, main.run (initial ['1'] 0) squareRun = some c ∧ c.pc = .refresh ∧
      ∀ a ∈ c.game.one.snake, 2 ≤ a.x ∧ a.x ≤ 5 ∧ 1 ≤ a.y ∧ a.y ≤ 6 := by
  have h : (main.run (initial ['1'] 0) squareRun).map (fun c => c.pc) = some .refresh := by
    decide +kernel
  have hwin : main.Along (KeepsWindow 8 8) (initial ['1'] 0) squareRun := by
    unfold Machine.Along
    decide +kernel
  obtain ⟨c, hc, hpc⟩ := Option.map_eq_some_iff.1 h
  exact ⟨c, hc, hpc,
    (snakes_inside_walls (by decide) (by decide) hwin hc .one).1 hpc (Or.inl rfl)⟩

end Run

/-! ### The score -/

section Score

variable {Y X : ℤ} {arg : List Char} {ch2 : ℤ} {es : List Input} {c : Config} {p : Player}

/-- **A snake that has passed `crash_check` fits on the board.** -/
lemma length_le_board (hY : 5 ≤ Y) (hX : 5 ≤ X)
    (hwin : main.Along (KeepsWindow Y X) (initial arg ch2) es)
    (hrun : main.run (initial arg ch2) es = some c) (hp : Plays c.game p)
    (hjudged : stage p c.pc = .judged) :
    3 + ((c.game.side p).score : ℤ) ≤ (X - 2) * (Y - 4) := by
  obtain ⟨w, hpast, hw, -⟩ := (fit_between (Or.inr (Or.inr hjudged))).1 (run_fit hrun hp)
  have hin := (within_settled (Or.inr (Or.inr hjudged))).1 (run_within hY hX hwin hrun hp)
  have hnodup := (neat_judged hjudged).1 (run_neat hrun hp)
  have hsub : ((c.game.side p).snake.map Pos.xy).toFinset ⊆ board Y X := by
    intro q hq
    exact hin q (hpast ▸ hw.mem_past (List.mem_toFinset.1 hq))
  have hcard := Finset.card_le_card hsub
  rw [List.toFinset_card_of_nodup hnodup, List.length_map, hw.length] at hcard
  rw [← card_board hY hX]
  exact_mod_cast hcard

/-- Scores change in `bonus_check` only, by one. -/
lemma step_score {c' : Config} {e : Input} (hstep : step c e = some c') (p : Player) :
    (c'.game.side p).score = (c.game.side p).score ∨
      c.pc = .bonusCheck p ∧ (c'.game.side p).score = (c.game.side p).score + 1 := by
  cases step_books hstep with
  | menu pc game => left; rw [game]; cases p <;> rfl
  | init pc game after => left; rw [game, side_initBonus]
  | create pc game after => left; rw [side_bonusCreate p game]
  | check q pc game after =>
    rw [game]
    rcases eq_or_ne p q with rfl | hne
    · rcases side_bonusCheck_self c.game p with ⟨-, hs⟩ | ⟨-, hs⟩ <;> rw [hs]
      · exact Or.inl rfl
      · exact Or.inr ⟨pc, rfl⟩
    · rw [side_bonusCheck_ne c.game hne]
      exact Or.inl rfl
  | other create check same opening =>
    simp only [Game.tally, Prod.mk.injEq] at same
    obtain ⟨-, -, -, hone, htwo⟩ := same
    left
    cases p
    · exact hone
    · exact htwo

/-- **The room on the board bounds the score**, with one for the meal after the check. -/
theorem run_score (hY : 5 ≤ Y) (hX : 5 ≤ X)
    (hwin : main.Along (KeepsWindow Y X) (initial arg ch2) es)
    (hrun : main.run (initial arg ch2) es = some c) (p : Player) :
    ((c.game.side p).score : ℤ) ≤ (X - 2) * (Y - 4) - 2 := by
  refine Machine.run_induction (P := fun es c => main.Along (KeepsWindow Y X) (initial arg ch2) es →
    ((c.game.side p).score : ℤ) ≤ (X - 2) * (Y - 4) - 2) ?_ ?_ hrun hwin
  · intro _
    have h0 : ((initial arg ch2).game.side p).score = 0 := by cases p <;> rfl
    rw [h0]
    push_cast
    nlinarith
  · intro es c e c' hrun hind hstep hwin
    have hwin' := ((Machine.along_snoc hrun).1 hwin).1
    rcases step_score hstep p with hs | ⟨hpc, hs⟩
    · rw [hs]
      exact hind hwin'
    · have hp := run_plays hrun .bonusCheck hpc trivial
      have hjudged : stage p c.pc = .judged := by rw [hpc]; cases p <;> rfl
      have hroom := length_le_board hY hX hwin' hrun hp hjudged
      rw [hs]
      push_cast
      linarith

lemma length_scoreNb {g : Game} (h : (g.side p).score < 10 ^ 7) : (scoreNb p g).length ≤ 8 := by
  have hdigits := Nat.repr_length (g.side p).score 7 (by decide) h
  rw [scoreNb, List.length_append, String.length_toList]
  exact Nat.add_le_add_right hdigits 1

lemma length_scoreTxt (g : Game) : (scoreTxt p g).length = 8 + (scoreNb p g).length := by
  have hprefix : "Score : ".toList.length = 8 := by decide
  rw [← hprefix]
  exact List.length_append

/-- **The score is bounded by the size of the window**, in every state of a run in a window that
keeps its size; so when there are at most 10000001 positions inside the walls, every call of
`score_disp` stays within its two buffers. -/
theorem score_fits_buffers (hY : 5 ≤ Y) (hX : 5 ≤ X)
    (hwin : main.Along (KeepsWindow Y X) (initial arg ch2) es)
    (hrun : main.run (initial arg ch2) es = some c) (p : Player) :
    ((c.game.side p).score : ℤ) ≤ (X - 2) * (Y - 4) - 2 ∧
    ((X - 2) * (Y - 4) ≤ 10000001 → c.pc = .scoreDisp p →
      (scoreNb p c.game).length ≤ 8 ∧ (scoreTxt p c.game).length ≤ 16) := by
  have hscore := run_score hY hX hwin hrun p
  refine ⟨hscore, fun hsmall _ => ?_⟩
  have hnb : (scoreNb p c.game).length ≤ 8 := length_scoreNb (by omega)
  refine ⟨hnb, ?_⟩
  rw [length_scoreTxt]
  omega

theorem score_fits_buffers_square :
    ∃ c, main.run (initial ['1'] 0) (squareRun.take 28) = some c ∧ c.pc = .scoreDisp .one ∧
      c.game.one.score = 1 ∧ (c.game.one.score : ℤ) ≤ 22 ∧ (scoreTxt .one c.game).length ≤ 16 := by
  have h : (main.run (initial ['1'] 0) (squareRun.take 28)).map
      (fun c => (c.pc, c.game.one.score)) = some (.scoreDisp .one, 1) := by decide +kernel
  have hwin : main.Along (KeepsWindow 8 8) (initial ['1'] 0) (squareRun.take 28) := by
    unfold Machine.Along
    decide +kernel
  obtain ⟨c, hc, hpc⟩ := Option.map_eq_some_iff.1 h
  obtain ⟨hpc, hscore⟩ := Prod.mk_inj.1 hpc
  obtain ⟨hle, hbuf⟩ := score_fits_buffers (by decide) (by decide) hwin hc .one
  exact ⟨c, hc, hpc, hscore, hle, (hbuf (by decide) hpc).2⟩

end Score

end UsbJoystick.Snake
