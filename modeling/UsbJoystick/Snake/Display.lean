import UsbJoystick.Snake.Walls
import UsbJoystick.Snake.Spawn

/-!
What the player sees.

`glyph` is the character on a cell of the screen: that of the last call of `mvprintw` that covers
it, where a text that reaches the end of a row goes on in the next one. A frame paints in layers:
the border and the texts, which leave the cells between the walls free, then the active bonuses,
then the snakes. After that nothing is printed until `refresh`, but `bonus_check` may still take a
bonus away and put a cell behind a snake. The bonus was under the head, so that it did not show
anyway; the new cell is not on the screen before the next frame. So at `refresh` the screen has the
snakes as they were in the state `c₁` in which the checks of the frame began, and a snake differs
from the one it was then by the meal of this frame (`screen_shows_board`).
-/

namespace UsbJoystick.Snake

open UsbJoystick.Lib

/-! ### The character on a cell -/

/-- What a call of `mvprintw` puts on the cell `q` of a window of `width` columns. -/
def Print.char (width : ℤ) (q : ℤ × ℤ) (x : Print) : Option Char :=
  let k := (q.1 - x.row) * width + (q.2 - x.col)
  if 0 ≤ k then x.text.toList[k.toNat]? else none

def glyph (width : ℤ) (screen : List Print) (q : ℤ × ℤ) : Option Char :=
  screen.foldl (fun c x => (x.char width q).or c) none

section Glyph

variable {width : ℤ} {q : ℤ × ℤ} {screen ps : List Print}

lemma glyph_concat (x : Print) :
    glyph width (screen ++ [x]) q = (x.char width q).or (glyph width screen q) := by
  rw [glyph, List.foldl_append]
  rfl

/-- Calls that do not cover a cell leave it as it is. -/
lemma glyph_append_of_none (h : ∀ x ∈ ps, x.char width q = none) :
    glyph width (screen ++ ps) q = glyph width screen q := by
  induction ps using List.reverseRecOn with
  | nil => rw [List.append_nil]
  | append_singleton ps x ih =>
    obtain ⟨hps, hx⟩ := List.forall_mem_append.1 h
    rw [← List.append_assoc, glyph_concat, hx x (by simp), Option.none_or, ih hps]

/-- The calls of a loop that prints one character here and there. -/
def stamps (ch : Char) (cells : List (ℤ × ℤ)) : List Print :=
  cells.map fun a => ⟨a.1, a.2, ch.toString⟩

/-- Cells of a window are as far apart as their places in it, row by row. -/
lemma offset_eq_zero_iff {a : ℤ × ℤ} (ha : 0 ≤ a.2 ∧ a.2 < width) (hq : 0 ≤ q.2 ∧ q.2 < width) :
    (q.1 - a.1) * width + (q.2 - a.2) = 0 ↔ q = a := by
  constructor
  · intro h
    have hrow : q.1 = a.1 := by
      rcases lt_trichotomy q.1 a.1 with hlt | heq | hgt
      · nlinarith
      · exact heq
      · nlinarith
    rw [hrow, sub_self, zero_mul, zero_add, sub_eq_zero] at h
    exact Prod.ext hrow h
  · rintro rfl
    ring

/-- A single character covers its own cell. -/
lemma char_singleton {a : ℤ × ℤ} (ch : Char) (ha : 0 ≤ a.2 ∧ a.2 < width)
    (hq : 0 ≤ q.2 ∧ q.2 < width) :
    Print.char width q ⟨a.1, a.2, ch.toString⟩ = if q = a then some ch else none := by
  have htext : ch.toString.toList = [ch] := by simp [Char.toString]
  simp only [Print.char, htext, ← offset_eq_zero_iff ha hq]
  generalize (q.1 - a.1) * width + (q.2 - a.2) = k
  rcases lt_trichotomy k 0 with hlt | rfl | hgt
  · rw [if_neg (by omega), if_neg (by omega)]
  · rfl
  · rw [if_pos (by omega), if_neg (by omega)]
    exact List.getElem?_eq_none (by rw [List.length_singleton]; omega)

/-- **Stamps cover their cells** and leave the others as they are. -/
theorem glyph_stamps {ch : Char} {cells : List (ℤ × ℤ)} (hq : 0 ≤ q.2 ∧ q.2 < width)
    (hcells : ∀ a ∈ cells, 0 ≤ a.2 ∧ a.2 < width) :
    glyph width (screen ++ stamps ch cells) q =
      if q ∈ cells then some ch else glyph width screen q := by
  induction cells using List.reverseRecOn with
  | nil => simp [stamps]
  | append_singleton cells a ih =>
    obtain ⟨hcells, ha⟩ := List.forall_mem_append.1 hcells
    have hstamps : stamps ch (cells ++ [a]) = stamps ch cells ++ [⟨a.1, a.2, ch.toString⟩] := by
      simp [stamps]
    rw [hstamps, ← List.append_assoc, glyph_concat, ih hcells,
      char_singleton ch (ha a List.mem_cons_self) hq]
    by_cases hqa : q = a
    · simp [hqa]
    · simp [hqa]

end Glyph

/-- The calls that the window takes. -/
lemma screen_stamps (ch : Char) (cells : List (ℤ × ℤ)) (g : Game) :
    (mvprintw (stamps ch cells) g).screen = g.screen ++ stamps ch (cells.filter fun a =>
      decide (0 ≤ a.1 ∧ a.1 < g.maxY ∧ 0 ≤ a.2 ∧ a.2 < g.maxX)) := by
  simp only [mvprintw, stamps, List.filter_map]
  rfl

/-! ### The layers of a frame -/

/-- An active bonus lies on the cell. -/
def BonusAt (g : Game) (q : ℤ × ℤ) : Prop :=
  ∃ i ∈ g.slots, (g.slot i).activ = true ∧ ((g.slot i).posY, (g.slot i).posX) = q

instance (g : Game) (q : ℤ × ℤ) : Decidable (BonusAt g q) := by unfold BonusAt; infer_instance

section Layers

variable {g : Game} {q : ℤ × ℤ}

lemma glyph_mvprintw_stamps (ch : Char) (cells : List (ℤ × ℤ)) (hq : q ∈ board g.maxY g.maxX) :
    glyph g.maxX (mvprintw (stamps ch cells) g).screen q =
      if q ∈ cells then some ch else glyph g.maxX g.screen q := by
  obtain ⟨⟨h1, h2⟩, h3, h4⟩ := mem_board.1 hq
  rw [screen_stamps, glyph_stamps ⟨by omega, by omega⟩]
  · have hmem : q ∈ cells.filter (fun a =>
        decide (0 ≤ a.1 ∧ a.1 < g.maxY ∧ 0 ≤ a.2 ∧ a.2 < g.maxX)) ↔ q ∈ cells := by
      rw [List.mem_filter, decide_eq_true_eq]
      exact and_iff_left ⟨by omega, by omega, by omega, by omega⟩
    simp only [hmem]
  · intro a ha
    obtain ⟨-, -, h⟩ := by simpa using (List.mem_filter.1 ha).2
    exact h

lemma glyph_bonusDisp (hq : q ∈ board g.maxY g.maxX) :
    glyph g.maxX (bonusDisp g).screen q =
      if BonusAt g q then some '+' else glyph g.maxX g.screen q := by
  have hprints : bonusDisp g = mvprintw (stamps '+' ((g.slots.filter fun i => (g.slot i).activ).map
      fun i => ((g.slot i).posY, (g.slot i).posX))) g := by
    simp only [bonusDisp, stamps, List.map_map]
    rfl
  rw [hprints, glyph_mvprintw_stamps _ _ hq]
  have hmem : q ∈ (g.slots.filter fun i => (g.slot i).activ).map
      (fun i => ((g.slot i).posY, (g.slot i).posX)) ↔ BonusAt g q := by
    simp [BonusAt, and_assoc]
  simp only [hmem]

lemma glyph_snakeDisp (p : Player) (hq : q ∈ board g.maxY g.maxX) :
    glyph g.maxX (snakeDisp p g).screen q =
      if q ∈ (g.side p).snake.map Pos.xy then some 'o' else glyph g.maxX g.screen q := by
  have hprints : snakeDisp p g = mvprintw (stamps 'o' ((g.side p).snake.map Pos.xy)) g := by
    simp only [snakeDisp, stamps, List.map_map]
    rfl
  rw [hprints, glyph_mvprintw_stamps _ _ hq]

/-- A text that ends before the cell, or begins after it, does not cover it. -/
lemma char_eq_none {width : ℤ} {x : Print}
    (h : (x.text.length : ℤ) ≤ (q.1 - x.row) * width + (q.2 - x.col) ∨
      (q.1 - x.row) * width + (q.2 - x.col) < 0) : x.char width q = none := by
  simp only [Print.char]
  split_ifs with hk
  · exact List.getElem?_eq_none (by rw [String.length_toList]; omega)
  · rfl

lemma uiDrawPrints_cases {x : Print} (hx : x ∈ uiDrawPrints g) :
    x.text = "#" ∨ x = ⟨0, g.maxX.tdiv 2 - 8, title⟩ := by
  have hlength : ((title.length : ℤ) / 2) = 8 := by decide
  simp only [uiDrawPrints, hlength, List.mem_append, List.mem_flatMap, List.mem_cons,
    List.not_mem_nil, or_false] at hx
  rcases hx with (⟨i, -, rfl | rfl⟩ | ⟨i, -, rfl | rfl⟩) | rfl
  · exact .inl rfl
  · exact .inl rfl
  · exact .inl rfl
  · exact .inl rfl
  · exact .inr rfl

/-- The border and the title are not between the walls. -/
lemma glyph_drawn (hq : q ∈ board g.maxY g.maxX) : glyph g.maxX (drawn g).screen q = none := by
  obtain ⟨⟨h1, h2⟩, h3, h4⟩ := mem_board.1 hq
  have hscreen : (drawn g).screen = [] ++ (uiDrawPrints g).filter fun x =>
    decide (0 ≤ x.row ∧ x.row < g.maxY ∧ 0 ≤ x.col ∧ x.col < g.maxX) := rfl
  rw [hscreen]
  refine glyph_append_of_none fun x hx => ?_
  obtain ⟨hx, hwindow⟩ := List.mem_filter.1 hx
  obtain ⟨hrow, hrow', hcol, hcol'⟩ := by simpa using hwindow
  rcases uiDrawPrints_cases hx with htext | rfl
  · obtain ⟨r, k, text⟩ := x
    obtain rfl : text = "#" := htext
    have hborder := (mem_uiDrawPrints g (r, k)).1 hx
    have hne : q ≠ (r, k) := by
      rintro rfl
      simp only at h1 h2 h3 h4 hborder
      omega
    have hhash : "#" = '#'.toString := by decide
    have hchar := char_singleton (a := (r, k)) '#' ⟨hcol, hcol'⟩
      (⟨by omega, by omega⟩ : 0 ≤ q.2 ∧ q.2 < g.maxX)
    rw [hhash, hchar, if_neg hne]
  · -- the title is only printed if it begins in the window, and then it ends in row 1 at the latest
    have hlength : title.length = 17 := by decide
    have hhalf : g.maxX.tdiv 2 = g.maxX / 2 := Int.tdiv_eq_ediv_of_nonneg (by omega)
    simp only [hhalf] at hcol
    refine char_eq_none (.inl ?_)
    simp only [hlength, hhalf, sub_zero]
    have hrows : 2 * g.maxX ≤ q.1 * g.maxX := Int.mul_le_mul_of_nonneg_right h1 (by omega)
    push_cast
    omega

/-- The score does not reach the third row if it is not longer than two. -/
lemma glyph_scoreDisp (p : Player) (hq : q ∈ board g.maxY g.maxX)
    (hwide : ((scoreTxt .one g).length : ℤ) ≤ 2 * g.maxX) :
    glyph g.maxX (scoreDisp p g).screen q = glyph g.maxX g.screen q := by
  obtain ⟨⟨h1, h2⟩, h3, h4⟩ := mem_board.1 hq
  cases p with
  | one =>
    refine glyph_append_of_none fun x hx => ?_
    obtain rfl := List.mem_singleton.1 (List.mem_of_mem_filter hx)
    refine char_eq_none (.inl ?_)
    have hrows : 2 * g.maxX ≤ q.1 * g.maxX := Int.mul_le_mul_of_nonneg_right h1 (by omega)
    simp only [String.length_ofList, List.length_dropLast, sub_zero]
    omega
  | two =>
    refine glyph_append_of_none fun x hx => ?_
    obtain rfl := List.mem_singleton.1 (List.mem_of_mem_filter hx)
    refine char_eq_none (.inr ?_)
    show (q.1 - (g.maxY - 1)) * g.maxX + (q.2 - 0) < 0
    nlinarith

end Layers

/-! ### The picture of a frame -/

/-- What there is on a cell, with the snakes on `cells`. -/
def picture (g : Game) (cells : List (ℤ × ℤ)) (q : ℤ × ℤ) : Option Char :=
  if q ∈ cells then some 'o' else if BonusAt g q then some '+' else none

/-- That is what the screen shows between the walls. -/
def Pictured (g : Game) (cells : List (ℤ × ℤ)) : Prop :=
  ∀ q ∈ board g.maxY g.maxX, glyph g.maxX g.screen q = picture g cells q

/-- The cells of the lists `D` of the players of the game. -/
def cellsOf (g : Game) (D : Player → List Pos) : List (ℤ × ℤ) :=
  (D .one).map Pos.xy ++ if g.nbPlayer = 2 then (D .two).map Pos.xy else []

lemma mem_cellsOf {g : Game} {D : Player → List Pos} {q : ℤ × ℤ} :
    q ∈ cellsOf g D ↔ ∃ p, Plays g p ∧ q ∈ (D p).map Pos.xy := by
  rw [cellsOf, List.mem_append]
  constructor
  · rintro (h | h)
    · exact ⟨.one, Or.inl rfl, h⟩
    · split_ifs at h with htwo
      · exact ⟨.two, Or.inr htwo, h⟩
      · cases h
  · rintro ⟨p, hp, h⟩
    cases p with
    | one => exact Or.inl h
    | two =>
      have htwo : g.nbPlayer = 2 := hp.resolve_left (by decide)
      exact Or.inr (by rwa [if_pos htwo])

/-- How far the painting of a frame has got. -/
inductive Layer where
  | blank | border | bonuses | first | all
  deriving DecidableEq

def layer : Pc → Layer
  | .scoreDisp _ | .bonusCreate | .bonusDisp => .border
  | .snakeMove _ | .snakeDisp .one => .bonuses
  | .snakeDisp .two => .first
  | .wallCheck _ | .crashCheck _ | .bonusCheck _ | .crashSnakeCheck _ | .refresh => .all
  | _ => .blank

/-- The snakes of a game, as they are. -/
def snakes (c : Config) (p : Player) : List Pos := (c.game.side p).snake

/-- What a meal makes of a player. -/
def fed (s : Side) : Side := { s with score := s.score + 1, snake := snakeGrow s.snake }

/-- A player is as in `c₁`, when the snakes were printed, or has had a meal since. -/
def Printed (c₁ c : Config) : Prop :=
  ∀ p, Plays c.game p → c.game.side p = c₁.game.side p ∨
    stage p c.pc = .rested ∧ c.game.side p = fed (c₁.game.side p)

/-- How far the screen is painted, if the snakes of the frame have been printed in `c₁`. -/
def Painted (c₁ c : Config) : Prop :=
  match layer c.pc with
  | .blank => True
  | .border => ∀ q ∈ board c.game.maxY c.game.maxX, glyph c.game.maxX c.game.screen q = none
  | .bonuses => Pictured c.game []
  | .first => Pictured c.game (c.game.one.snake.map Pos.xy)
  | .all => Printed c₁ c ∧ Pictured c.game (cellsOf c.game (snakes c₁))

section Painted

variable {c₁ c c' : Config} {e : Input}

/-- From the painting of the snakes to the end of the frame, a player changes by a meal alone. -/
lemma Printed.step (hD : Printed c₁ c) (hmove : ∀ p, c.pc ≠ .snakeMove p)
    (hinit : ∀ p, c.pc ≠ .initSnake p) (hend : layer c'.pc = .all) (hstep : step c e = some c') :
    Printed c₁ c' := by
  intro p hp
  have hp' := (step_plays hstep p).1 hp
  cases step_turn hp' hstep with
  | born pc => exact absurd pc (hinit p)
  | move pc => exact absurd pc (hmove p)
  | wall pc game ok before after =>
    rw [game]
    refine (hD p hp').imp_right fun h => ?_
    exact absurd (before.symm.trans h.1) (by decide)
  | crash pc game ok before after =>
    rw [game]
    refine (hD p hp').imp_right fun h => ?_
    exact absurd (before.symm.trans h.1) (by decide)
  | eat pc game before after =>
    have hsame : c.game.side p = c₁.game.side p := by
      refine (hD p hp').resolve_right fun h => ?_
      exact absurd (before.symm.trans h.1) (by decide)
    rw [game]
    rcases side_bonusCheck_self c.game p with ⟨-, hs⟩ | ⟨-, hs⟩
    · rw [hs]
      exact Or.inl hsame
    · rw [hs, ← hsame]
      exact Or.inr ⟨after, rfl⟩
  | idle init move eat side same =>
    rw [side, same]
    exact hD p hp'
  | ends init move eat side after =>
    rcases stage_eq_ended.1 after with hpc | hpc <;> rw [hpc] at hend <;> cases hend

/-- A bonus that is eaten lay under the head. -/
lemma bonusAt_bonusCheck {g : Game} {p : Player} {q : ℤ × ℤ}
    (h100 : ∀ i ∈ g.slots, i < MAX_BONUS) (hq : q ≠ (g.side p).snakeEnd.xy) :
    BonusAt (bonusCheck p g) q ↔ BonusAt g q := by
  unfold BonusAt
  rw [slots_bonusCheck]
  refine exists_congr fun j => and_congr_right fun hj => ?_
  cases hhit : hitSlot p g with
  | none => rw [((bonusCheck_cases g p).resolve_right (by simp [hhit])).2]
  | some i =>
    rw [slot_bonusCheck hhit]
    by_cases hji : j = i
    · subst hji
      rw [slot_setSlot_self g _ (h100 j hj)]
      have hon := (hitSlot_eq_some hhit).2
      rw [onHead, decide_eq_true_eq] at hon
      constructor
      · rintro ⟨⟨⟩, -⟩
      · rintro ⟨-, rfl⟩
        exact absurd (by rw [Pos.xy, hon.1, hon.2]) hq
    · rw [slot_setSlot_ne g _ hji]

/-- A frame is painted from its border on. -/
lemma next_layer {n : ℕ} {pc pc' : Pc} (h : next n pc pc') (hl : layer pc' ≠ .blank) :
    pc = .uiDraw ∨ layer pc ≠ .blank := by
  unfold next at h
  split at h <;> grind [layer]

lemma painted_all (h : layer c.pc = .all) :
    Painted c₁ c ↔ Printed c₁ c ∧ Pictured c.game (cellsOf c.game (snakes c₁)) := by
  rw [Painted, h]

/-- The picture of the snakes as they are. -/
lemma painted_of_pictured (h : layer c.pc = .all)
    (hg : Pictured c.game (cellsOf c.game (snakes c))) : Painted c c :=
  (painted_all h).2 ⟨fun _ _ => Or.inl rfl, hg⟩

/-- The checks of a frame do not paint. -/
lemma Painted.check (h : Painted c₁ c) (hl : layer c.pc = .all) (hmove : ∀ p, c.pc ≠ .snakeMove p)
    (hinit : ∀ p, c.pc ≠ .initSnake p) (hend : layer c'.pc = .all) (hstep : step c e = some c')
    (hg : Printed c₁ c → Pictured c.game (cellsOf c.game (snakes c₁)) →
      Pictured c'.game (cellsOf c'.game (snakes c₁))) : Painted c₁ c' := by
  obtain ⟨hD, hpicture⟩ := (painted_all hl).1 h
  exact (painted_all hend).2 ⟨hD.step hmove hinit hend hstep, hg hD hpicture⟩

/-- What a meal changes is not on the screen. -/
lemma pictured_bonusCheck {g : Game} {p : Player} {cells : List (ℤ × ℤ)}
    (h100 : ∀ i ∈ g.slots, i < MAX_BONUS) (hhead : (g.side p).snakeEnd.xy ∈ cells)
    (h : Pictured g cells) : Pictured (bonusCheck p g) cells := by
  have hsame : (bonusCheck p g).maxY = g.maxY ∧ (bonusCheck p g).maxX = g.maxX ∧
      (bonusCheck p g).screen = g.screen := by
    rcases bonusCheck_cases g p with ⟨-, hg⟩ | ⟨i, -, hg⟩ <;> rw [hg]
    · exact ⟨rfl, rfl, rfl⟩
    · cases p <;> exact ⟨rfl, rfl, rfl⟩
  obtain ⟨hY, hX, hscreen⟩ := hsame
  intro q hq
  rw [hY, hX] at hq
  rw [hX, hscreen, h q hq, picture, picture]
  by_cases hmem : q ∈ cells
  · rw [if_pos hmem, if_pos hmem]
  · have hne : q ≠ (g.side p).snakeEnd.xy := fun heq => hmem (heq ▸ hhead)
    simp only [bonusAt_bonusCheck h100 hne]

lemma pictured_setSide {g : Game} {p : Player} {s : Side} {cells : List (ℤ × ℤ)}
    (h : Pictured g cells) : Pictured (g.setSide p s) cells := by
  cases p <;> exact h

/-- A snake is painted over what is there. -/
lemma pictured_snakeDisp {g : Game} {cells : List (ℤ × ℤ)} (p : Player) (h : Pictured g cells) :
    Pictured (snakeDisp p g) (cells ++ (g.side p).snake.map Pos.xy) := by
  intro q hq
  have hglyph := glyph_snakeDisp (g := g) p hq
  rw [h q hq] at hglyph
  refine hglyph.trans ?_
  unfold picture
  by_cases hmem : q ∈ cells
  · simp [hmem]
  · by_cases hsnake : q ∈ (g.side p).snake.map Pos.xy
    · rw [if_pos hsnake, if_pos (List.mem_append_right _ hsnake)]
    · have hneither : q ∉ cells ++ (g.side p).snake.map Pos.xy := by
        rw [List.mem_append, not_or]
        exact ⟨hmem, hsnake⟩
      rw [if_neg hsnake, if_neg hmem, if_neg hneither]
      rfl

/-- The state in which the snakes of the frame have been printed, after a step to `c'`. -/
def printedIn (c₁ c' : Config) : Config := if c'.pc = .wallCheck .one then c' else c₁

/-- **Every step of a frame paints its layer.** -/
theorem Painted.step (h : Painted c₁ c) (hstep : step c e = some c')
    (hsecond : Second c.pc → c.game.nbPlayer = 2) (h100 : ∀ i ∈ c.game.slots, i < MAX_BONUS)
    (hwide : ∀ p, c.pc = .scoreDisp p → ((scoreTxt .one c.game).length : ℤ) ≤ 2 * c.game.maxX)
    (hlast : ∀ p, c.pc = .bonusCheck p →
      Plays c.game p ∧ (c.game.side p).snake.getLast? = some (c.game.side p).snakeEnd) :
    Painted (printedIn c₁ c') c' := by
  by_cases hblank : layer c'.pc = .blank
  · rw [Painted, hblank]
    trivial
  have hnext := next_layer (step_next hstep) hblank
  obtain ⟨pc, g⟩ := c
  rcases hnext with hpc | hlayer
  · obtain rfl : pc = .uiDraw := hpc
    obtain rfl := Option.some_inj.1 hstep
    exact fun q hq => glyph_drawn (g := g) hq
  cases pc with
  | scoreDisp p =>
    have hscore : ∀ q ∈ board g.maxY g.maxX, glyph g.maxX (scoreDisp p g).screen q = none := by
      intro q hq
      rw [glyph_scoreDisp p hq (hwide p rfl)]
      exact h q hq
    cases p with
    | one =>
      obtain rfl := Option.some_inj.1 hstep
      rcases ifTwo_cases g (.scoreDisp .two) .bonusCreate with ⟨-, hpc⟩ | ⟨-, hpc⟩ <;>
        · rw [hpc]
          exact hscore
    | two =>
      obtain rfl := Option.some_inj.1 hstep
      exact hscore
  | bonusCreate =>
    obtain ⟨g', hg', rfl⟩ := Option.map_eq_some_iff.1 hstep
    rcases bonusCreate_cases hg' with rfl | ⟨-, ⟨-, rfl⟩ | ⟨i, x, y, -, rfl⟩⟩ <;> exact h
  | bonusDisp =>
    obtain rfl := Option.some_inj.1 hstep
    intro q hq
    have hglyph := glyph_bonusDisp (g := g) hq
    rw [h q hq] at hglyph
    exact hglyph
  | snakeMove p =>
    have hmoved : ∀ p s, Pictured (g.setSide p s) [] := fun p s => pictured_setSide h
    cases p with
    | one =>
      obtain rfl := Option.some_inj.1 hstep
      rcases ifTwo_cases g (.snakeMove .two) (.snakeDisp .one) with ⟨-, hpc⟩ | ⟨-, hpc⟩ <;>
        · rw [hpc]
          exact hmoved _ _
    | two =>
      obtain rfl := Option.some_inj.1 hstep
      exact hmoved _ _
  | snakeDisp p =>
    cases p with
    | one =>
      have hsnake : Pictured (snakeDisp .one g) (g.one.snake.map Pos.xy) :=
        pictured_snakeDisp .one h
      obtain rfl := Option.some_inj.1 hstep
      rcases ifTwo_cases g (.snakeDisp .two) (.wallCheck .one) with ⟨-, hpc⟩ | ⟨hone, hpc⟩
      · rw [hpc]
        exact hsnake
      · rw [hpc]
        rw [printedIn, if_pos rfl]
        refine painted_of_pictured rfl ?_
        have hcells : cellsOf (snakeDisp .one g) (snakes ⟨.wallCheck .one, snakeDisp .one g⟩) =
            g.one.snake.map Pos.xy := by
          rw [cellsOf, if_neg (show (snakeDisp .one g).nbPlayer ≠ 2 from hone), List.append_nil]
          rfl
        rw [hcells]
        exact hsnake
    | two =>
      have hsnakes : Pictured (snakeDisp .two g)
          (g.one.snake.map Pos.xy ++ g.two.snake.map Pos.xy) := pictured_snakeDisp .two h
      obtain rfl := Option.some_inj.1 hstep
      rw [printedIn, if_pos rfl]
      refine painted_of_pictured rfl ?_
      have hcells : cellsOf (snakeDisp .two g) (snakes ⟨.wallCheck .one, snakeDisp .two g⟩) =
          g.one.snake.map Pos.xy ++ g.two.snake.map Pos.xy := by
        rw [cellsOf, if_pos (show (snakeDisp .two g).nbPlayer = 2 from hsecond trivial)]
        rfl
      rw [hcells]
      exact hsnakes
  | wallCheck p | crashCheck p | crashSnakeCheck p =>
    have hgame : layer c'.pc = .all ∧ c'.game = g ∧ c'.pc ≠ .wallCheck .one := by
      cases p <;>
      · have hc' := Option.some_inj.1 hstep
        split_ifs at hc' <;> subst hc'
        · exact absurd rfl hblank
        · exact ⟨rfl, rfl, by simp⟩
    rw [printedIn, if_neg hgame.2.2]
    refine h.check rfl (by simp) (by simp) hgame.1 hstep fun _ hD => ?_
    rw [hgame.2.1]
    exact hD
  | bonusCheck p =>
    obtain ⟨hp, hhead⟩ := hlast p rfl
    have hgame : layer c'.pc = .all ∧ c'.game = bonusCheck p g ∧ c'.pc ≠ .wallCheck .one := by
      cases p with
      | one =>
        obtain rfl := Option.some_inj.1 hstep
        rcases ifTwo_cases g (.wallCheck .two) .refresh with ⟨-, hpc⟩ | ⟨-, hpc⟩ <;>
          exact ⟨by rw [hpc]; rfl, rfl, by simp [hpc]⟩
      | two =>
        obtain rfl := Option.some_inj.1 hstep
        exact ⟨rfl, rfl, by simp⟩
    rw [printedIn, if_neg hgame.2.2]
    refine h.check rfl (by simp) (by simp) hgame.1 hstep fun hprinted hD => ?_
    have hsame : g.side p = c₁.game.side p := by
      refine (hprinted p hp).resolve_right fun hrested => ?_
      cases p <;> cases hrested.1
    have hmem : (g.side p).snakeEnd.xy ∈ cellsOf g (snakes c₁) := by
      refine mem_cellsOf.2 ⟨p, hp, ?_⟩
      rw [snakes, ← hsame]
      exact List.mem_map_of_mem (List.mem_of_getLast? hhead)
    have hcells : cellsOf (bonusCheck p g) (snakes c₁) = cellsOf g (snakes c₁) := by
      have hplayers := (step_leaves hstep).nbPlayer
      rw [hgame.2.1] at hplayers
      simp only [cellsOf, hplayers]
    rw [hgame.2.1, hcells]
    exact pictured_bonusCheck h100 hmem hD
  | refresh =>
    obtain rfl := Option.some_inj.1 hstep
    exact absurd rfl hblank
  | _ => exact absurd rfl hlayer

end Painted

/-! ### Every run -/

section Run

variable {arg : List Char} {ch2 : ℤ} {es : List Input} {c : Config} {Y X : ℤ}

/-- The checks of the frame that `c` is in began in `c₁`. -/
def Since (s₀ : Config) (es : List Input) (c₁ c : Config) : Prop :=
  c₁.pc = .wallCheck .one ∧ ∃ es₁ es₂, es = es₁ ++ es₂ ∧ main.run s₀ es₁ = some c₁ ∧
    main.run c₁ es₂ = some c ∧ ∀ x ∈ main.trace c₁ es₂, x.1.pc ≠ .refresh

/-- The checks come one after the other. -/
lemma next_checks {n : ℕ} {pc pc' : Pc} (h : next n pc pc') (hl : layer pc' = .all)
    (hpc' : pc' ≠ .wallCheck .one) : layer pc = .all ∧ pc ≠ .refresh := by
  unfold next at h
  split at h <;> grind [layer]

lemma Since.step {s₀ c₁ c' : Config} {e : Input} (h : layer c.pc = .all → Since s₀ es c₁ c)
    (hrun : main.run s₀ es = some c) (hstep : step c e = some c') (hl : layer c'.pc = .all) :
    Since s₀ (es ++ [e]) (printedIn c₁ c') c' := by
  by_cases hpc : c'.pc = .wallCheck .one
  · rw [printedIn, if_pos hpc]
    refine ⟨hpc, es ++ [e], [], (List.append_nil _).symm, ?_, rfl, List.forall_mem_nil _⟩
    exact Machine.run_snoc_eq_some.2 ⟨c, hrun, hstep⟩
  · rw [printedIn, if_neg hpc]
    obtain ⟨hl, hrefresh⟩ := next_checks (step_next hstep) hl hpc
    obtain ⟨hpc₁, es₁, es₂, rfl, hrun₁, hrun₂, htrace⟩ := h hl
    refine ⟨hpc₁, es₁, es₂ ++ [e], by simp, hrun₁, ?_, ?_⟩
    · exact Machine.run_snoc_eq_some.2 ⟨c, hrun₂, hstep⟩
    · rw [Machine.trace_snoc hrun₂]
      exact List.forall_mem_append.2 ⟨htrace, List.forall_mem_singleton.2 hrefresh⟩

theorem run_painted (hY : 5 ≤ Y) (hX : 8 ≤ X) (hsmall : (X - 2) * (Y - 4) ≤ 10000001)
    (hwin : main.Along (KeepsWindow Y X) (initial arg ch2) es)
    (hrun : main.run (initial arg ch2) es = some c) :
    ∃ c₁, Painted c₁ c ∧ (layer c.pc = .all → Since (initial arg ch2) es c₁ c) := by
  refine Machine.run_induction (P := fun es c =>
    main.Along (KeepsWindow Y X) (initial arg ch2) es → ∃ c₁, Painted c₁ c ∧
      (layer c.pc = .all → Since (initial arg ch2) es c₁ c)) ?_ ?_ hrun hwin
  · intro _
    exact ⟨initial arg ch2, trivial, fun h => by cases h⟩
  · intro es c e c' hrun hind hstep hwin
    have hwin' := ((Machine.along_snoc hrun).1 hwin).1
    obtain ⟨c₁, hpainted, hsince⟩ := hind hwin'
    refine ⟨printedIn c₁ c', hpainted.step hstep (run_second hrun)
      (run_sound hrun).lt_MAX_BONUS ?_ ?_, Since.step hsince hrun hstep⟩
    · intro p hpc
      have hscore := run_score hY (by omega) hwin' hrun .one
      have hnb : (scoreNb .one c.game).length ≤ 8 := length_scoreNb (by omega)
      rw [(run_sized hwin' hrun (by rw [hpc]; trivial)).2, length_scoreTxt]
      push_cast
      omega
    · intro p hpc
      have hp := run_plays hrun .bonusCheck hpc trivial
      have hjudged : stage p c.pc = .judged := by rw [hpc]; cases p <;> rfl
      obtain ⟨w, -, hw, -⟩ := (fit_between (Or.inr (Or.inr hjudged))).1 (run_fit hrun hp)
      exact ⟨hp, hw.last⟩

/-- **The screen shows the board**, in a window that keeps its size, has at least 5 rows and 8
columns and at most 10000001 cells between its walls, so that the score has at most 7 digits. At
every `refresh`, every cell between the walls shows an `o` if a snake was on it in `c₁`, when the
checks of this frame began, otherwise a `+` if an active bonus is on it, and nothing otherwise. A
player who has not eaten in this frame still has that snake, and the snake of one who has eaten has
grown by the cell that is not shown. -/
theorem screen_shows_board (hY : 5 ≤ Y) (hX : 8 ≤ X) (hsmall : (X - 2) * (Y - 4) ≤ 10000001)
    (hwin : main.Along (KeepsWindow Y X) (initial arg ch2) es)
    (hrun : main.run (initial arg ch2) es = some c) (hpc : c.pc = .refresh) :
    ∃ es₁ es₂ c₁, es = es₁ ++ es₂ ∧ main.run (initial arg ch2) es₁ = some c₁ ∧
      c₁.pc = .wallCheck .one ∧ main.Until (fun c => c.pc = .refresh) c₁ es₂ c ∧
      (∀ p, Plays c.game p →
        (c.game.side p).score = (c₁.game.side p).score ∧
          (c.game.side p).snake = (c₁.game.side p).snake ∨
        (c.game.side p).score = (c₁.game.side p).score + 1 ∧
          (c.game.side p).snake = snakeGrow (c₁.game.side p).snake) ∧
      ∀ q ∈ board Y X, glyph X c.game.screen q =
        if ∃ p, Plays c.game p ∧ q ∈ (c₁.game.side p).snake.map Pos.xy then some 'o'
        else if BonusAt c.game q then some '+' else none := by
  have hall : layer c.pc = .all := by rw [hpc]; rfl
  obtain ⟨c₁, hpainted, hsince⟩ := run_painted hY hX hsmall hwin hrun
  obtain ⟨hprinted, hpicture⟩ := (painted_all hall).1 hpainted
  obtain ⟨hpc₁, es₁, es₂, hes, hrun₁, hrun₂, htrace⟩ := hsince hall
  obtain ⟨hmaxY, hmaxX⟩ := run_sized hwin hrun (by rw [hpc]; trivial)
  refine ⟨es₁, es₂, c₁, hes, hrun₁, hpc₁, ⟨hrun₂, hpc, htrace⟩, fun p hp => ?_, fun q hq => ?_⟩
  · rcases hprinted p hp with hsame | ⟨-, hfed⟩
    · exact Or.inl ⟨by rw [hsame], by rw [hsame]⟩
    · exact Or.inr ⟨by rw [hfed]; rfl, by rw [hfed]; rfl⟩
  · have hglyph := hpicture q (by rw [hmaxY, hmaxX]; exact hq)
    rw [hmaxX, picture] at hglyph
    rw [hglyph]
    simp only [mem_cellsOf]
    rfl

end Run

/-- A bonus is eaten in the first frame: it is under the head, and the tail is not on the screen. -/
theorem screen_shows_board_square :
    ∃ c, main.run (initial ['1'] 0) (squareRun.take 20) = some c ∧ c.pc = .refresh ∧
      c.game.one.snake.map Pos.xy = [(2, 1), (2, 2), (2, 3), (3, 3)] ∧ c.game.one.score = 1 ∧
      ∃ es₁ es₂ c₁, squareRun.take 20 = es₁ ++ es₂ ∧ main.run (initial ['1'] 0) es₁ = some c₁ ∧
        c₁.pc = .wallCheck .one ∧ main.Until (fun c => c.pc = .refresh) c₁ es₂ c ∧
        (∀ p, Plays c.game p →
          (c.game.side p).score = (c₁.game.side p).score ∧
            (c.game.side p).snake = (c₁.game.side p).snake ∨
          (c.game.side p).score = (c₁.game.side p).score + 1 ∧
            (c.game.side p).snake = snakeGrow (c₁.game.side p).snake) ∧
        ∀ q ∈ board 8 8, glyph 8 c.game.screen q =
          if ∃ p, Plays c.game p ∧ q ∈ (c₁.game.side p).snake.map Pos.xy then some 'o'
          else if BonusAt c.game q then some '+' else none := by
  have h : (main.run (initial ['1'] 0) (squareRun.take 20)).map
      (fun c => (c.pc, c.game.one.snake.map Pos.xy, c.game.one.score)) =
        some (.refresh, [(2, 1), (2, 2), (2, 3), (3, 3)], 1) := by decide +kernel
  have hwin : main.Along (KeepsWindow 8 8) (initial ['1'] 0) (squareRun.take 20) := by
    unfold Machine.Along
    decide +kernel
  obtain ⟨c, hc, hend⟩ := Option.map_eq_some_iff.1 h
  obtain ⟨hpc, hsnake, hscore⟩ : c.pc = .refresh ∧
      c.game.one.snake.map Pos.xy = [(2, 1), (2, 2), (2, 3), (3, 3)] ∧ c.game.one.score = 1 := by
    simpa only [Prod.mk.injEq] using hend
  exact ⟨c, hc, hpc, hsnake, hscore,
    screen_shows_board (by decide) (by decide) (by decide) hwin hc hpc⟩

end UsbJoystick.Snake
