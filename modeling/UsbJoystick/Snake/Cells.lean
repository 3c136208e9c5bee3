import UsbJoystick.Snake.Defs

/-!
What the functions on one snake compute, in terms of positions.

`snake_move` has eight branches; they all move the head one cell along its new heading, which
is the direction asked for unless that is the opposite of the old heading (`snakeMove_eq`).
`snake_grow` puts a cell behind the first one (`snakeGrow_cons`). Behind a cell that a move has
made lies the cell the move came from (`behind_advance`): this is why growing after the old
tail is gone can put the tail back where it was.
-/

namespace UsbJoystick.Snake

/-! ### Directions -/

namespace Dir

def opp : Dir → Dir
  | .up => .down
  | .down => .up
  | .right => .left
  | .left => .right

def ahead (d : Dir) (q : ℤ × ℤ) : ℤ × ℤ :=
  match d with
  | .up => (q.1 - 1, q.2)
  | .down => (q.1 + 1, q.2)
  | .right => (q.1, q.2 + 1)
  | .left => (q.1, q.2 - 1)

@[simp] lemma ahead_opp_ahead (d : Dir) (q : ℤ × ℤ) : d.opp.ahead (d.ahead q) = q := by
  cases d <;> simp [opp, ahead]

/-- The heading of a snake that runs towards `cur` and is asked to turn to `want`. -/
def heading (want cur : Dir) : Dir := if want = cur.opp then cur else want

end Dir

namespace Pos

def advance (c : Pos) (d : Dir) : Pos := ⟨(d.ahead c.xy).1, (d.ahead c.xy).2, d⟩

/-- The position that a cell was entered from, if its `dir` is to be trusted. -/
def behind (c : Pos) : ℤ × ℤ := c.dir.opp.ahead c.xy

@[simp] lemma xy_advance (c : Pos) (d : Dir) : (c.advance d).xy = d.ahead c.xy := rfl

@[simp] lemma behind_advance (c : Pos) (d : Dir) : (c.advance d).behind = c.xy := by
  unfold behind
  rw [xy_advance]
  exact d.ahead_opp_ahead c.xy

lemma xy_eq_iff {c c' : Pos} : c.xy = c'.xy ↔ c.x = c'.x ∧ c.y = c'.y := Prod.mk_inj

end Pos

/-! ### Moving and growing -/

def nextHead (dir : Dir) (s : Side) : Pos := s.snakeEnd.advance (dir.heading s.snakeEnd.dir)

/-- **`snake_move`** takes the head one cell along the new heading and drops the first cell. -/
theorem snakeMove_eq (dir : Dir) (s : Side) : snakeMove dir s = moveTo (nextHead dir s) s := by
  unfold snakeMove nextHead Pos.advance Dir.heading Dir.ahead Pos.xy
  cases dir <;> cases s.snakeEnd.dir <;> simp [Dir.opp]

def regrown (c : Pos) : Pos := ⟨c.behind.1, c.behind.2, c.dir⟩

@[simp] lemma xy_regrown (c : Pos) : (regrown c).xy = c.behind := rfl

/-- **`snake_grow`** puts a cell behind the first one. -/
theorem snakeGrow_cons (c : Pos) (l : List Pos) : snakeGrow (c :: l) = regrown c :: c :: l := by
  obtain ⟨x, y, dir⟩ := c
  cases dir <;> simp [snakeGrow, regrown, Pos.behind, Dir.ahead, Pos.xy, headAdd, Dir.opp]

section Moves

variable (pos : Pos) (s : Side)

@[simp] lemma moveTo_snakeEnd : (moveTo pos s).snakeEnd = pos := rfl

@[simp] lemma moveTo_score : (moveTo pos s).score = s.score := rfl

lemma moveTo_snake (h : s.snake ≠ []) : (moveTo pos s).snake = s.snake.tail ++ [pos] := by
  simp [moveTo, tailAdd, headDel, List.tail_append_of_ne_nil h]

end Moves

/-! ### Trustworthy cells -/

/-- The cell `b` was entered from the cell `a`, along the `dir` of `b`. -/
def Follows (a b : Pos) : Prop := a.xy = b.behind

/-- Every cell but the first was entered from the one before it. Nothing is said of the `dir`
of the first cell: `snake_grow` copies it from the next one, and it may be wrong. -/
def Linked (l : List Pos) : Prop := l.IsChain Follows

lemma linked_cons_cons {a b : Pos} {l : List Pos} :
    Linked (a :: b :: l) ↔ Follows a b ∧ Linked (b :: l) := List.isChain_cons_cons

lemma follows_advance (c : Pos) (d : Dir) : Follows c (c.advance d) := (c.behind_advance d).symm

lemma follows_regrown (c : Pos) : Follows (regrown c) c := rfl

lemma Linked.concat_advance {l : List Pos} {c : Pos} (h : Linked l) (hc : l.getLast? = some c)
    (d : Dir) : Linked (l ++ [c.advance d]) := by
  refine List.IsChain.append h (List.isChain_singleton _) ?_
  intro x hx y hy
  obtain rfl : c = x := Option.some_inj.1 (hc.symm.trans hx)
  obtain rfl : c.advance d = y := Option.some_inj.1 hy
  exact follows_advance c d

/-- Growing keeps the cells linked, whatever the `dir` of the first cell was. -/
lemma Linked.regrow {c : Pos} {l : List Pos} (h : Linked (c :: l)) : Linked (regrown c :: c :: l) :=
  linked_cons_cons.2 ⟨follows_regrown c, h⟩

/-! ### Overlaps -/

/-- **`crash_check`** answers whether two cells lie on the same position. -/
theorem crashCheck_eq_false {l : List Pos} : crashCheck l = false ↔ (l.map Pos.xy).Nodup := by
  induction l with
  | nil => simp [crashCheck]
  | cons c l ih =>
    simp only [crashCheck, Bool.or_eq_false_iff, ih, List.map_cons, List.nodup_cons]
    refine and_congr_left fun _ => ?_
    simp only [List.any_eq_false, decide_eq_true_eq, List.mem_map, not_exists, not_and]
    refine forall₂_congr fun c' _ => ?_
    rw [← not_and, ← Pos.xy_eq_iff, eq_comm]

/-- **`crash_snake_check`** answers whether the head lies on the list. -/
theorem crashSnakeCheck_eq_true {l : List Pos} {id : Player} {g : Game} :
    crashSnakeCheck l id g = true ↔ (g.side id).snakeEnd.xy ∈ l.map Pos.xy := by
  simp only [crashSnakeCheck, List.any_eq_true, decide_eq_true_eq, List.mem_map, Pos.xy_eq_iff]

end UsbJoystick.Snake
