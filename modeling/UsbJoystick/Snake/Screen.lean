import UsbJoystick.Snake.Control

/-!
The window and the border on the screen.

`max_x` and `max_y` are read again at the top of every frame and when the pause menu opens; in
between they keep their values. `UI_draw` clears the screen and draws the border for the current
values, and what the rest of the frame prints is never a `#`. So until the end of the frame the
`#` on the screen are those of the border (`run_framed`), and `mem_uiDrawPrints` and `hashAt_drawn`
say where they are.
-/

namespace UsbJoystick.Snake

open UsbJoystick.Lib

def HashAt (g : Game) (q : ℤ × ℤ) : Prop := ⟨q.1, q.2, "#"⟩ ∈ g.screen

instance (g : Game) (q : ℤ × ℤ) : Decidable (HashAt g q) := by unfold HashAt; infer_instance

def drawn (g : Game) : Game := uiDraw { g with screen := [] }

/-! ### The border -/

lemma title_ne_hash : title ≠ "#" := by decide

lemma mem_uiDrawPrints (g : Game) (q : ℤ × ℤ) : (⟨q.1, q.2, "#"⟩ : Print) ∈ uiDrawPrints g ↔
    ((q.1 = 1 ∨ q.1 = g.maxY - 2) ∧ 0 ≤ q.2 ∧ q.2 ≤ g.maxX) ∨
      ((q.2 = 0 ∨ q.2 = g.maxX - 1) ∧ 2 ≤ q.1 ∧ q.1 ≤ g.maxY - 3) := by
  obtain ⟨r, k⟩ := q
  simp only [uiDrawPrints, List.mem_append, List.mem_flatMap, List.mem_range, List.mem_cons,
    List.not_mem_nil, or_false, Print.mk.injEq, and_true, title_ne_hash.symm, and_false]
  constructor
  · rintro (⟨i, hi, h⟩ | ⟨i, hi, h⟩)
    · left
      rcases h with ⟨rfl, rfl⟩ | ⟨rfl, rfl⟩ <;> omega
    · right
      rcases h with ⟨rfl, rfl⟩ | ⟨rfl, rfl⟩ <;> omega
  · rintro (⟨hr, h0, hx⟩ | ⟨hk, h2, hy⟩)
    · exact Or.inl ⟨k.toNat, by omega, by omega⟩
    · exact Or.inr ⟨(r - 2).toNat, by omega, by omega⟩

/-- **Where the border is**, in a window with room for one: on the rows `1` and `max_y - 2`, and
between them on the columns `0` and `max_x - 1`. -/
theorem hashAt_drawn {g : Game} (hY : 5 ≤ g.maxY) (hX : 5 ≤ g.maxX) (q : ℤ × ℤ) :
    HashAt (drawn g) q ↔ 1 ≤ q.1 ∧ q.1 ≤ g.maxY - 2 ∧ 0 ≤ q.2 ∧ q.2 ≤ g.maxX - 1 ∧
      (q.1 = 1 ∨ q.1 = g.maxY - 2 ∨ q.2 = 0 ∨ q.2 = g.maxX - 1) := by
  have hmem := mem_uiDrawPrints g q
  unfold HashAt drawn uiDraw mvprintw
  simp only [List.nil_append, List.mem_filter, decide_eq_true_eq]
  rw [show uiDrawPrints { g with screen := [] } = uiDrawPrints g from rfl, hmem]
  omega

/-! ### What a step does to the window and to the screen -/

/-- The program points from the border of a frame to its end. -/
def Framed : Pc → Prop
  | .scoreDisp _ | .bonusCreate | .bonusDisp | .snakeMove _ | .snakeDisp _ | .wallCheck _ => True
  | .crashCheck _ | .bonusCheck _ | .crashSnakeCheck _ => True
  | _ => False

/-- The program points at which the window has been read. -/
def Sized : Pc → Prop
  | .menuDisp _ | .menu2Disp | .getmaxyxInit => False
  | _ => True

def ReadsWindow (pc : Pc) : Prop := pc = .getmaxyxInit ∨ pc = .getmaxyx ∨ pc = .quitOpen

instance (pc : Pc) : Decidable (ReadsWindow pc) := by unfold ReadsWindow; infer_instance

/-- What a step from `c` to `c'` can do to the window and to the screen. -/
inductive Paint (c c' : Config) (e : Input) : Prop where
  | read (pc : ReadsWindow c.pc) (game : c'.game = getmaxyx e c.game) (after : ¬ Framed c'.pc)
  | draw (pc : c.pc = .uiDraw) (game : c'.game = drawn c.game)
  | print (ps : List Print) (reads : ¬ ReadsWindow c.pc)
      (window : c'.game.maxY = c.game.maxY ∧ c'.game.maxX = c.game.maxX)
      (screen : c'.game.screen = c.game.screen ++ ps) (plain : ∀ x ∈ ps, x.text ≠ "#")
      (framed : Framed c'.pc → Framed c.pc) (sized : Sized c'.pc → Sized c.pc)

/-- What a statement may do that is neither of the first two. -/
def Plain (g g' : Game) : Prop :=
  (g'.maxY = g.maxY ∧ g'.maxX = g.maxX) ∧
    ∃ ps, g'.screen = g.screen ++ ps ∧ ∀ x ∈ ps, x.text ≠ "#"

section Plain

variable (g : Game)

lemma plain_of_eq {g g' : Game} (hY : g'.maxY = g.maxY) (hX : g'.maxX = g.maxX)
    (hs : g'.screen = g.screen) : Plain g g' := ⟨⟨hY, hX⟩, [], by simp [hs], by simp⟩

lemma plain_mvprintw {ps : List Print} (h : ∀ x ∈ ps, x.text ≠ "#") : Plain g (mvprintw ps g) :=
  ⟨⟨rfl, rfl⟩, _, rfl, fun x hx => h x (List.mem_of_mem_filter hx)⟩

lemma scoreTxt_ne_hash (p : Player) : String.ofList (scoreTxt p g).dropLast ≠ "#" := by
  have htxt : scoreTxt p g = ("Score : ".toList ++ (g.side p).score.repr.toList) ++ ['\x00'] :=
    (List.append_assoc _ _ _).symm
  have hS : "Score : ".toList = ['S', 'c', 'o', 'r', 'e', ' ', ':', ' '] := by decide
  have hhash : "#" = String.ofList ['#'] := by decide
  rw [htxt, List.dropLast_concat, hS, hhash, ne_eq, String.ofList_inj]
  simp

lemma plain_scoreDisp (p : Player) : Plain g (scoreDisp p g) := by
  cases p <;> exact plain_mvprintw g (by simp [scoreTxt_ne_hash])

lemma plain_bonusDisp : Plain g (bonusDisp g) := by
  refine plain_mvprintw g fun x hx => ?_
  obtain ⟨i, -, rfl⟩ := List.mem_map.1 hx
  exact (by decide : "+" ≠ "#")

lemma plain_snakeDisp (p : Player) : Plain g (snakeDisp p g) := by
  refine plain_mvprintw g fun x hx => ?_
  obtain ⟨c, -, rfl⟩ := List.mem_map.1 hx
  exact (by decide : "o" ≠ "#")

lemma plain_steer (p : Player) : Plain g (steer p g) := by
  cases p <;> simp only [steer, setDir] <;> split_ifs <;> exact plain_of_eq rfl rfl rfl

lemma plain_setSide (p : Player) (s : Side) : Plain g (g.setSide p s) := by
  cases p <;> exact plain_of_eq rfl rfl rfl

lemma plain_initBonus : Plain g (initBonus g) := by
  obtain ⟨b, hb⟩ := initBonus_eq g
  rw [hb]
  exact plain_of_eq rfl rfl rfl

lemma plain_bonusCreate {g g' : Game} {e : Input} (h : bonusCreate e g = some g') : Plain g g' := by
  rcases bonusCreate_cases h with rfl | ⟨-, ⟨-, rfl⟩ | ⟨i, x, y, -, rfl⟩⟩ <;>
    exact plain_of_eq rfl rfl rfl

lemma plain_bonusCheck (p : Player) : Plain g (bonusCheck p g) := by
  rcases bonusCheck_cases g p with ⟨-, hg⟩ | ⟨i, -, hg⟩ <;> rw [hg]
  · exact plain_of_eq rfl rfl rfl
  · cases p <;> exact plain_of_eq rfl rfl rfl

end Plain

/-- The border comes before what is framed by it. -/
lemma next_framed {n : ℕ} {pc pc' : Pc} (h : next n pc pc') (hdraw : pc ≠ .uiDraw)
    (hf : Framed pc') : Framed pc := by
  unfold next at h
  split at h <;> grind [Framed]

lemma next_sized {n : ℕ} {pc pc' : Pc} (h : next n pc pc') (hread : pc ≠ .getmaxyxInit)
    (hs : Sized pc') : Sized pc := by
  unfold next at h
  split at h <;> grind [Sized]

lemma not_framed_of_readsWindow {n : ℕ} {pc pc' : Pc} (h : next n pc pc') (hr : ReadsWindow pc) :
    ¬ Framed pc' := by
  rcases hr with rfl | rfl | rfl <;> cases h <;> exact id

/-- **`Paint` lists everything a step can do to the window and to the screen.** -/
theorem step_paint {c c' : Config} {e : Input} (h : step c e = some c') : Paint c c' e := by
  have hnext := step_next h
  obtain ⟨pc, g⟩ := c
  -- what is neither a reading nor the border is plain
  suffices hplain : ¬ ReadsWindow pc → pc ≠ .uiDraw → Plain g c'.game by
    by_cases hread : ReadsWindow pc
    · refine .read hread ?_ (not_framed_of_readsWindow hnext hread)
      rcases hread with rfl | rfl | rfl <;> obtain rfl := Option.some_inj.1 h <;> rfl
    · by_cases hdraw : pc = .uiDraw
      · subst hdraw
        obtain rfl := Option.some_inj.1 h
        exact .draw rfl rfl
      · obtain ⟨hwindow, ps, hscreen, hps⟩ := hplain hread hdraw
        exact .print ps hread hwindow hscreen hps (next_framed hnext hdraw)
          (next_sized hnext fun hpc => hread (Or.inl hpc))
  intro hread hdraw
  cases pc with
  | menuDisp k =>
    obtain rfl := Option.some_inj.1 h
    rcases menuTurn_cases g e k with ⟨r, hr⟩ | ⟨k', hr⟩ <;> rw [hr] <;>
      exact plain_of_eq rfl rfl rfl
  | getmaxyxInit | getmaxyx | quitOpen => exact absurd (by simp [ReadsWindow]) hread
  | uiDraw => exact absurd rfl hdraw
  | initSnake id =>
    cases id <;> obtain rfl := Option.some_inj.1 h <;> exact plain_setSide g _ _
  | initBonus =>
    obtain rfl := Option.some_inj.1 h
    exact plain_initBonus g
  | getch =>
    obtain rfl := Option.some_inj.1 h
    simp only
    split_ifs <;> exact plain_of_eq rfl rfl rfl
  | pause =>
    simp only [step] at h
    split_ifs at h <;> obtain rfl := Option.some_inj.1 h <;> exact plain_of_eq rfl rfl rfl
  | quitDisp k =>
    obtain rfl := Option.some_inj.1 h
    rcases quitTurn_cases g e k with hr | hr | ⟨k', hr⟩ <;> rw [hr] <;>
      exact plain_of_eq rfl rfl rfl
  | setDir q => cases q <;> obtain rfl := Option.some_inj.1 h <;> exact plain_steer g _
  | scoreDisp q => cases q <;> obtain rfl := Option.some_inj.1 h <;> exact plain_scoreDisp g _
  | bonusCreate =>
    obtain ⟨g', hg', rfl⟩ := Option.map_eq_some_iff.1 h
    exact plain_bonusCreate hg'
  | bonusDisp =>
    obtain rfl := Option.some_inj.1 h
    exact plain_bonusDisp g
  | snakeMove q => cases q <;> obtain rfl := Option.some_inj.1 h <;> exact plain_setSide g _ _
  | snakeDisp q => cases q <;> obtain rfl := Option.some_inj.1 h <;> exact plain_snakeDisp g _
  | wallCheck q | crashCheck q =>
    obtain rfl := Option.some_inj.1 h
    split_ifs <;> exact plain_of_eq rfl rfl rfl
  | bonusCheck q => cases q <;> obtain rfl := Option.some_inj.1 h <;> exact plain_bonusCheck g _
  | crashSnakeCheck q =>
    cases q <;> obtain rfl := Option.some_inj.1 h <;> split_ifs <;> exact plain_of_eq rfl rfl rfl
  | halt => cases h
  | _ =>
    obtain rfl := Option.some_inj.1 h
    exact plain_of_eq rfl rfl rfl

/-! ### Runs -/

section Run

variable {arg : List Char} {ch2 : ℤ} {es : List Input} {c : Config}

lemma hashAt_append {g g' : Game} {ps : List Print} (hs : g'.screen = g.screen ++ ps)
    (hp : ∀ x ∈ ps, x.text ≠ "#") (q : ℤ × ℤ) : HashAt g' q ↔ HashAt g q := by
  rw [HashAt, HashAt, hs, List.mem_append]
  exact or_iff_left fun hx => hp _ hx rfl

lemma hashAt_drawn_congr {g g' : Game} (hY : g'.maxY = g.maxY) (hX : g'.maxX = g.maxX)
    (q : ℤ × ℤ) : HashAt (drawn g') q ↔ HashAt (drawn g) q := by
  unfold HashAt drawn uiDraw mvprintw uiDrawPrints
  rw [hY, hX]

/-- **Until the end of the frame, the `#` on the screen are the border.** -/
theorem run_framed (hrun : main.run (initial arg ch2) es = some c) (hpc : Framed c.pc)
    (q : ℤ × ℤ) : HashAt c.game q ↔ HashAt (drawn c.game) q := by
  refine Machine.run_inv
    (I := fun c => Framed c.pc → (HashAt c.game q ↔ HashAt (drawn c.game) q)) ?_ ?_ hrun hpc
  · exact fun h => h.elim
  · intro c e c' hind hstep hpc
    cases step_paint hstep with
    | read pc game after => exact absurd hpc after
    | draw pc game =>
      rw [game]
      exact (hashAt_drawn_congr rfl rfl q).symm
    | print ps reads window screen plain framed sized =>
      rw [hashAt_append screen plain, hashAt_drawn_congr window.1 window.2]
      exact hind (framed hpc)

/-- Every reading of the size of the window gives `Y` rows and `X` columns. -/
def KeepsWindow (Y X : ℤ) (c : Config) (e : Input) : Prop :=
  ReadsWindow c.pc → e.window = (Y, X)

instance (Y X : ℤ) (c : Config) (e : Input) : Decidable (KeepsWindow Y X c e) := by
  unfold KeepsWindow; infer_instance

theorem run_sized {Y X : ℤ} (hwin : main.Along (KeepsWindow Y X) (initial arg ch2) es)
    (hrun : main.run (initial arg ch2) es = some c) (hpc : Sized c.pc) :
    c.game.maxY = Y ∧ c.game.maxX = X := by
  refine Machine.along_induction
    (P := fun _ c => Sized c.pc → c.game.maxY = Y ∧ c.game.maxX = X) ?_ ?_ hwin hrun hpc
  · exact fun h => h.elim
  · intro es c e c' hrun hind hwin hstep hpc
    cases step_paint hstep with
    | read pc game after =>
      rw [game]
      exact Prod.mk_inj.1 (hwin pc)
    | draw pc game =>
      rw [game]
      exact hind (by rw [pc]; trivial)
    | print ps reads window screen plain framed sized =>
      rw [window.1, window.2]
      exact hind (sized hpc)

end Run

end UsbJoystick.Snake
