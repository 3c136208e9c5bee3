import UsbJoystick.Lib.Walk
import UsbJoystick.Snake.Trail

/-!
The shape of a snake: it cannot bite itself before it has five cells.

Consecutive cells lie side by side, along the `dir` of the later one, and `snake_move` never
turns a head around (`Onward`). The cell that `snake_grow` makes up has the `dir` of the one it
stands behind, so it does not turn around either. The cells of a snake are therefore a walk on
the board that never goes straight back, and the board is coloured like a chessboard: such a walk
comes back to a position after an even number of steps, and at least four.
-/

namespace UsbJoystick.Snake

open UsbJoystick.Lib

/-! ### Winding lists -/

/-- The cell `b` was entered from the cell `a`, and not against the `dir` of `a`. -/
def Onward (a b : Pos) : Prop := Follows a b ∧ b.dir ≠ a.dir.opp

def Winding (l : List Pos) : Prop := l.IsChain Onward

lemma Dir.opp_ne (d : Dir) : d ≠ d.opp := by cases d <;> simp [Dir.opp]

lemma Dir.heading_ne (want cur : Dir) : want.heading cur ≠ cur.opp := by
  unfold Dir.heading
  split_ifs with h
  · exact cur.opp_ne
  · exact h

section Winding

variable {c : Pos} {l : List Pos}

lemma onward_advance (c : Pos) (want : Dir) : Onward c (c.advance (want.heading c.dir)) :=
  ⟨follows_advance c _, want.heading_ne c.dir⟩

lemma Winding.concat_advance (h : Winding l) (hc : l.getLast? = some c) (want : Dir) :
    Winding (l ++ [c.advance (want.heading c.dir)]) := by
  refine List.IsChain.append h (List.isChain_singleton _) ?_
  intro x hx y hy
  obtain rfl : c = x := Option.some_inj.1 (hc.symm.trans hx)
  obtain rfl : c.advance (want.heading c.dir) = y := Option.some_inj.1 hy
  exact onward_advance c want

/-- The `dir` that `snake_grow` makes up does not turn around. -/
lemma Winding.snakeGrow (h : Winding l) : Winding (snakeGrow l) := by
  cases l with
  | nil => exact List.isChain_nil
  | cons c l =>
    rw [snakeGrow_cons]
    exact List.isChain_cons_cons.2 ⟨⟨follows_regrown c, c.dir.opp_ne⟩, h⟩

end Winding

/-! ### The chessboard -/

def chess (q : ℤ × ℤ) : Bool := decide ((q.1 + q.2) % 2 = 0)

lemma chess_ahead (d : Dir) (q : ℤ × ℤ) : chess (d.ahead q) = !chess q := by
  unfold chess
  rw [← decide_not]
  refine decide_eq_decide.2 ?_
  cases d <;> simp only [Dir.ahead] <;> omega

lemma Dir.ahead_injective {d d' : Dir} {q : ℤ × ℤ} (h : d.ahead q = d'.ahead q) : d = d' := by
  cases d <;> cases d' <;> simp [Dir.ahead] at h <;> first | rfl | omega

lemma Dir.ahead_ahead_opp (d : Dir) (q : ℤ × ℤ) : d.ahead (d.opp.ahead q) = q := by
  cases d <;> simp [Dir.opp, Dir.ahead]

/-- A cell that was entered from a position lies ahead of it. -/
lemma Follows.ahead {a b : Pos} (h : Follows a b) : b.xy = b.dir.ahead a.xy := by
  rw [h, Pos.behind, Dir.ahead_ahead_opp]

section Chess

variable {l : List Pos}

lemma Winding.alternates (h : Winding l) : Alternates chess (l.map Pos.xy) := by
  refine (List.isChain_map Pos.xy).2 (h.imp fun a b hab => ?_)
  rw [hab.1.ahead, chess_ahead]

lemma Winding.noReturn (h : Winding l) : NoReturn (l.map Pos.xy) := by
  intro i hi
  have hi : i + 2 < l.length := by simpa using hi
  obtain ⟨hfirst, -⟩ := List.IsChain.getElem h i (by omega)
  obtain ⟨hsecond, hturn⟩ := List.IsChain.getElem h (i + 1) hi
  rw [List.getElem_map, List.getElem_map]
  intro heq
  -- both ends of the two steps lie beside the cell between them, on the same side
  refine hturn (Dir.ahead_injective (q := l[i + 1].xy) ?_)
  rw [← hsecond.ahead, ← Pos.behind, ← hfirst, heq]

/-- **Cells that overlap are an even number of cells apart, and at least four.** -/
theorem Winding.even_and_four_le (h : Winding l) {i j : ℕ} {a b : Pos} (hij : i < j)
    (ha : l[i]? = some a) (hb : l[j]? = some b) (heq : a.xy = b.xy) : Even (j - i) ∧ 4 ≤ j - i := by
  obtain ⟨hi, rfl⟩ := List.getElem?_eq_some_iff.1 ha
  obtain ⟨hj, rfl⟩ := List.getElem?_eq_some_iff.1 hb
  refine h.alternates.even_and_four_le h.noReturn hij (by simpa using hj) ?_
  rw [List.getElem_map, List.getElem_map, heq]

/-- A list of fewer than five cells does not overlap itself. -/
lemma Winding.nodup (h : Winding l) (hlen : l.length < 5) : (l.map Pos.xy).Nodup := by
  rw [List.nodup_iff_getElem?_ne_getElem?]
  intro i j hij hj heq
  have hj : j < l.length := by simpa using hj
  have hi : i < l.length := by omega
  rw [List.getElem?_map, List.getElem?_map, List.getElem?_eq_getElem hi,
    List.getElem?_eq_getElem hj] at heq
  have hfour := (h.even_and_four_le hij (List.getElem?_eq_getElem hi)
    (List.getElem?_eq_getElem hj) (Option.some_inj.1 heq)).2
  omega

end Chess

/-! ### Every run -/

/-- The cells of the player `p` are a walk that never goes straight back. -/
def Wound (p : Player) (c : Config) : Prop :=
  stage p c.pc ≠ .unborn → stage p c.pc ≠ .ended → Winding (c.game.side p).snake

section Step

variable {p : Player} {T F : List (ℤ × ℤ)} {c c' : Config} {e : Input}

/-- A move appends a cell that does not turn around, and drops the first one. -/
lemma Winding.snakeMove {w : Window (ℤ × ℤ)} {s : Side} (h : Winding s.snake) (hw : Tracks w s)
    (dir : Dir) : Winding (snakeMove dir s).snake := by
  obtain ⟨a, b, rest, hs⟩ := hw.exists_cons
  have hconcat : Winding (s.snake ++ [nextHead dir s]) := h.concat_advance hw.last dir
  rw [snakeMove_eq, moveTo_snake _ _ (by simp [hs])]
  rw [hs] at hconcat ⊢
  exact hconcat.tail

/-- **One step keeps the shape.** -/
theorem Wound.step (hp : Plays c.game p) (hfit : Fit p T F c) (h : Wound p c)
    (hstep : step c e = some c') : Wound p c' := by
  intro hborn hended
  cases step_turn hp hstep with
  | born pc side before after =>
    rw [side, initSnake, side_setSide_self]
    have hcells : ∀ y : ℤ, Onward ⟨initRow p c.game, y, .right⟩
        ⟨initRow p c.game, y + 1, .right⟩ := by
      intro y
      refine ⟨?_, by simp [Dir.opp]⟩
      simp [Follows, Pos.behind, Pos.xy, Dir.opp, Dir.ahead]
    exact List.isChain_cons_cons.2
      ⟨hcells 1, List.isChain_cons_cons.2 ⟨hcells 2, List.isChain_singleton _⟩⟩
  | move pc side before after =>
    obtain ⟨w, -, hw⟩ := (fit_rested before).1 hfit
    rw [side]
    exact (h (by simp [before]) (by simp [before])).snakeMove hw _
  | wall pc game ok before after | crash pc game ok before after =>
    rw [game]
    exact h (by simp [before]) (by simp [before])
  | eat pc game before after =>
    have hwind := h (by simp [before]) (by simp [before])
    rw [game]
    rcases side_bonusCheck_self c.game p with ⟨-, hs⟩ | ⟨-, hs⟩ <;> rw [hs]
    · exact hwind
    · exact hwind.snakeGrow
  | idle init move eat side same =>
    rw [same] at hborn hended
    rw [side]
    exact h hborn hended
  | ends init move eat side after => exact absurd after hended

end Step

section Run

variable {arg : List Char} {ch2 : ℤ} {es : List Input} {c : Config} {p : Player}

theorem run_wound (hrun : main.run (initial arg ch2) es = some c) (hp : Plays c.game p) :
    Wound p c := by
  refine Machine.run_induction (P := fun _ c => Plays c.game p → Wound p c) ?_ ?_ hrun hp
  · intro _ hborn
    exact absurd rfl hborn
  · intro es c e c' hrun hwound hstep hp
    have hp' := (step_plays hstep p).1 hp
    exact (hwound hp').step hp' (run_fit hrun hp') hstep

/-- **Overlapping cells are far apart.** After a move of a player, two of its cells can lie on one
position only if they are an even number of places apart in the list, and at least four. So the
new head is never on the cell just behind the old head, and `crash_check` answers 0 in every frame
in which the player has fewer than two points. -/
theorem overlaps_far_apart (hrun : main.run (initial arg ch2) es = some c) :
    (c.pc = .snakeMove p → ∀ e c', step c e = some c' →
      (∀ i j a b, i < j → (c'.game.side p).snake[i]? = some a →
        (c'.game.side p).snake[j]? = some b → a.xy = b.xy → Even (j - i) ∧ 4 ≤ j - i) ∧
      ∀ l a b, (c.game.side p).snake = l ++ [a, b] → (c'.game.side p).snakeEnd.xy ≠ a.xy) ∧
    (c.pc = .crashCheck p → (c.game.side p).score < 2 →
      crashCheck (c.game.side p).snake = false) := by
  constructor
  · intro hpc e c' hstep
    have hp := run_plays hrun .snakeMove hpc trivial
    have hrested : stage p c.pc = .rested := by rw [hpc]; cases p <;> rfl
    obtain ⟨w, -, hw⟩ := (fit_rested hrested).1 (run_fit hrun hp)
    have hside := side_of_snakeMove hp hstep hpc
    have hwind : Winding (c'.game.side p).snake := by
      rw [hside]
      exact (run_wound hrun hp (by simp [hrested]) (by simp [hrested])).snakeMove hw _
    refine ⟨fun i j a b hij ha hb heq => hwind.even_and_four_le hij ha hb heq, ?_⟩
    intro l a b hl heq
    -- the new head would be two places after the cell behind the old head
    have hsnake : (c'.game.side p).snake = l.tail ++ [a, b, (c'.game.side p).snakeEnd] := by
      have hlen := hw.length
      have hne : l ≠ [] := by
        rintro rfl
        simp [hl] at hlen
        omega
      rw [hside, snakeMove_eq, moveTo_snake _ _ (by simp [hl]), moveTo_snakeEnd, hl,
        List.tail_append_of_ne_nil hne, List.append_assoc]
      rfl
    have hfour := (hwind.even_and_four_le (i := l.tail.length) (j := l.tail.length + 2)
      (by omega) (by simp [hsnake]) (by simp [hsnake]) heq.symm).2
    omega
  · intro hpc hscore
    have hp := run_plays hrun .crashCheck hpc trivial
    have hwalled : stage p c.pc = .walled := by rw [hpc]; cases p <;> rfl
    obtain ⟨w, -, hw, -⟩ := (fit_between (Or.inr (Or.inl hwalled))).1 (run_fit hrun hp)
    have hwind := run_wound hrun hp (by simp [hwalled]) (by simp [hwalled])
    refine crashCheck_eq_false.2 (hwind.nodup ?_)
    have hlen := hw.length
    omega

end Run

theorem overlaps_far_apart_square : ∃ c, main.run (initial ['1'] 0) (squareRun.take 34) = some c ∧
    c.pc = .crashCheck .one ∧ c.game.one.score = 1 ∧ crashCheck c.game.one.snake = false := by
  have h : (main.run (initial ['1'] 0) (squareRun.take 34)).map
      (fun c => (c.pc, c.game.one.score)) = some (.crashCheck .one, 1) := by decide +kernel
  obtain ⟨c, hc, hpc⟩ := Option.map_eq_some_iff.1 h
  obtain ⟨hpc, hscore⟩ := Prod.mk_inj.1 hpc
  have hlt : (c.game.side .one).score < 2 := by
    show c.game.one.score < 2
    omega
  exact ⟨c, hc, hpc, hscore, (overlaps_far_apart (p := .one) hc).2 hpc hlt⟩

end UsbJoystick.Snake
