import UsbJoystick.Snake.Turns

/-!
The head of a snake follows the keys of its player, and nothing else.

The abstract player is a `Helm`: the direction asked for last, and the head. A frame turns the
helm by the key of the frame. The heads at the ends of the frames of a run are the course that
the keys of the run plot from the starting cell (`run_plotted`): bonuses, the other player, pauses
and the window have no part in it, and two runs need not be compared step by step.

A reversal that `snake_move` rejects stays in `dir`. It never fires later, because after every
frame `dir` is the heading or its opposite (`Helm.Settled`), and a helm that asks for either of
them goes straight on.
-/

namespace UsbJoystick.Snake

open UsbJoystick.Lib

/-! ### The helm -/

structure Helm where
  want : Dir -- `dir` or `dir_b`
  head : Pos
  deriving DecidableEq, Repr

namespace Helm

/-- A frame with the key `k`, which is `none` when the key stands for no direction. -/
def turn (h : Helm) (k : Option Dir) : Helm :=
  ⟨k.getD h.want, h.head.advance ((k.getD h.want).heading h.head.dir)⟩

/-- A snake that starts in the row `r`. -/
def start (r : ℤ) : Helm := ⟨.right, ⟨r, 3, .right⟩⟩

/-- The helm asks for the heading or for its opposite. -/
def Settled (h : Helm) : Prop := h.want = h.head.dir ∨ h.want = h.head.dir.opp

variable {h h' : Helm} {k : Option Dir}

lemma start_settled (r : ℤ) : (start r).Settled := Or.inl rfl

lemma turn_settled (h : Helm) (k : Option Dir) : (h.turn k).Settled := by
  simp only [Settled, turn, Pos.advance, Dir.heading]
  split_ifs with hopp
  · exact Or.inr hopp
  · exact Or.inl rfl

/-- A settled helm without a key goes straight on. -/
lemma Settled.turn_none (hs : h.Settled) : (h.turn none).head = h.head.advance h.head.dir := by
  have hhead : h.want.heading h.head.dir = h.head.dir := by
    rcases hs with hs | hs <;> rw [hs]
    · rw [Dir.heading]
      split_ifs <;> rfl
    · exact if_pos rfl
  exact congrArg h.head.advance hhead

/-- So does a helm whose key is the heading or its opposite. -/
lemma turn_ignored (hk : k = some h.head.dir ∨ k = some h.head.dir.opp) :
    (h.turn k).head = h.head.advance h.head.dir := by
  have hs : Settled ⟨k.getD h.want, h.head⟩ := by
    rcases hk with rfl | rfl
    · exact Or.inl rfl
    · exact Or.inr rfl
  exact hs.turn_none

/-- Helms that cannot be told apart by their heads, now and later. -/
structure Alike (h h' : Helm) : Prop where
  head : h.head = h'.head
  left : h.Settled
  right : h'.Settled

lemma Alike.turn (ha : Alike h h') (k : Option Dir) : Alike (h.turn k) (h'.turn k) := by
  refine ⟨?_, turn_settled h k, turn_settled h' k⟩
  cases k with
  | none => rw [ha.left.turn_none, ha.right.turn_none, ha.head]
  | some d => simp only [Helm.turn, Option.getD_some, ha.head]

end Helm

/-! ### Courses -/

/-- The helms of a snake that starts in the row `r`: before the first key, and after every key. -/
def course (r : ℤ) (ks : List (Option Dir)) : List Helm := ks.scanl Helm.turn (.start r)

/-- The helm after all keys. -/
def atKey (r : ℤ) (ks : List (Option Dir)) : Helm := ks.foldl Helm.turn (.start r)

/-- The heads after every key. -/
def courseHeads (r : ℤ) (ks : List (Option Dir)) : List Pos := (course r ks).tail.map Helm.head

/-- The headings before every key. -/
def courseHeadings (r : ℤ) (ks : List (Option Dir)) : List Dir :=
  (course r ks).dropLast.map fun h => h.head.dir

section Course

variable (r : ℤ) (ks ks' : List (Option Dir)) (k : Option Dir)

lemma atKey_concat : atKey r (ks ++ [k]) = (atKey r ks).turn k := by simp [atKey]

lemma atKey_settled : (atKey r ks).Settled := by
  rcases List.eq_nil_or_concat ks with rfl | ⟨ks, k, rfl⟩
  · exact Helm.start_settled r
  · rw [List.concat_eq_append, atKey_concat]
    exact Helm.turn_settled _ k

lemma course_ne_nil : course r ks ≠ [] := List.scanl_ne_nil

lemma course_append_cons :
    course r (ks ++ k :: ks') = course r ks ++ ks'.scanl Helm.turn ((atKey r ks).turn k) := by
  simp [course, atKey, List.scanl_append]

lemma courseHeads_append_cons : courseHeads r (ks ++ k :: ks') =
    courseHeads r ks ++ (ks'.scanl Helm.turn ((atKey r ks).turn k)).map Helm.head := by
  rw [courseHeads, course_append_cons, List.tail_append_of_ne_nil (course_ne_nil r ks),
    List.map_append]
  rfl

lemma courseHeads_concat :
    courseHeads r (ks ++ [k]) = courseHeads r ks ++ [(atKey r (ks ++ [k])).head] := by
  rw [courseHeads_append_cons, atKey_concat]
  rfl

lemma courseHeadings_concat :
    courseHeadings r (ks ++ [k]) = courseHeadings r ks ++ [(atKey r ks).head.dir] := by
  have hlast : (course r ks).dropLast ++ [atKey r ks] = course r ks :=
    List.dropLast_append_getLast? _ List.getLast?_scanl
  rw [courseHeadings, course_append_cons, List.scanl_nil, List.dropLast_concat, ← hlast,
    List.map_append]
  rfl

lemma courseHeads_take (n : ℕ) : (courseHeads r ks).take n = courseHeads r (ks.take n) := by
  have htake : (course r ks).tail.take n = (course r (ks.take n)).tail := by
    rw [course, course, ← List.take_scanl, List.tail_take_eq_take_tail]
    rfl
  rw [courseHeads, ← List.map_take, htake]
  rfl

/-- Helms that are alike have the same heads under all keys. -/
lemma Helm.Alike.scanl {h h' : Helm} (ha : h.Alike h') :
    (ks.scanl Helm.turn h).map Helm.head = (ks.scanl Helm.turn h').map Helm.head := by
  induction ks generalizing h h' with
  | nil => simpa using ha.head
  | cons k ks ih =>
    rw [List.scanl_cons, List.scanl_cons, List.map_cons, List.map_cons, ha.head, ih (ha.turn k)]

/-- **An ignored key leaves no trace**: a key that is the heading or its opposite can be taken
away without changing any head. -/
theorem courseHeads_set {i : ℕ} {d : Dir} (hd : (courseHeadings r ks)[i]? = some d)
    (hk : ks[i]? = some (some d) ∨ ks[i]? = some (some d.opp)) :
    courseHeads r (ks.set i none) = courseHeads r ks := by
  obtain ⟨k, hki, hkd⟩ : ∃ k, ks[i]? = some k ∧ (k = some d ∨ k = some d.opp) := by
    rcases hk with hk | hk
    · exact ⟨_, hk, Or.inl rfl⟩
    · exact ⟨_, hk, Or.inr rfl⟩
  obtain ⟨hi, hget⟩ := List.getElem?_eq_some_iff.1 hki
  -- the keys before and after the ignored one
  have hsplit : ks = ks.take i ++ k :: ks.drop (i + 1) := by simp [← hget]
  have hset : ks.set i none = ks.take i ++ none :: ks.drop (i + 1) :=
    List.set_eq_take_append_cons_drop.trans (if_pos hi)
  have hheading : (atKey r (ks.take i)).head.dir = d := by
    rw [courseHeadings, List.getElem?_map, List.getElem?_dropLast, course, List.getElem?_scanl,
      if_pos (by simpa using hi), if_pos hi.le] at hd
    simpa [atKey] using hd
  have halike : Helm.Alike ((atKey r (ks.take i)).turn none) ((atKey r (ks.take i)).turn k) := by
    refine ⟨?_, Helm.turn_settled _ none, Helm.turn_settled _ k⟩
    rw [(atKey_settled r _).turn_none, Helm.turn_ignored (by rwa [hheading])]
  rw [hset, courseHeads_append_cons, halike.scanl]
  conv_rhs => rw [hsplit, courseHeads_append_cons]

end Course

/-! ### What a step does to the steering -/

/-- How far the player `p` is in a frame. -/
inductive Leg where
  | unborn -- before `init_snake`
  | waiting -- from the end of a frame to the reading of the next key
  | keyed -- the key is read
  | steered -- `set_dir` has run
  | moved -- the head is in its new place
  | ended -- the game is over
  deriving DecidableEq

def leg (p : Player) : Pc → Leg
  | .menuDisp _ | .menu2Disp | .getmaxyxInit | .initSnake .one => .unborn
  | .initSnake .two => match p with | .one => .waiting | .two => .unborn
  | .initBonus | .refresh | .getmaxyx | .keyPressed => .waiting
  | .getch => match p with | .one => .keyed | .two => .waiting
  | .pause | .quitOpen | .quitDisp _ | .setDir .one => .keyed
  | .setDir .two => match p with | .one => .steered | .two => .keyed
  | .uiDraw | .scoreDisp _ | .bonusCreate | .bonusDisp | .snakeMove .one => .steered
  | .snakeMove .two => match p with | .one => .moved | .two => .steered
  | .snakeDisp _ | .wallCheck _ | .crashCheck _ | .bonusCheck _ | .crashSnakeCheck _ => .moved
  | .epilogue | .halt => .ended

/-- The statements that a player is steered by. -/
def Steering (p : Player) (pc : Pc) : Prop :=
  pc = .initSnake p ∨ pc = asks p ∨ pc = .setDir p ∨ pc = .snakeMove p

lemma next_leg_steering {n : ℕ} {p : Player} {pc pc' : Pc} (hp : p = .one ∨ n = 2)
    (h : next n pc pc') :
    (pc = .initSnake p → leg p pc = .unborn ∧ leg p pc' = .waiting) ∧
    (pc = asks p → leg p pc = .waiting ∧ leg p pc' = .keyed) ∧
    (pc = .setDir p → leg p pc = .keyed ∧ leg p pc' = .steered) ∧
    (pc = .snakeMove p → leg p pc = .steered ∧ leg p pc' = .moved) := by
  cases p <;> unfold next at h <;> split at h <;> grind [leg, asks]

/-- Other statements leave a player where it is, unless they end the frame or the game. -/
lemma next_leg {n : ℕ} {p : Player} {pc pc' : Pc} (hp : p = .one ∨ n = 2) (h : next n pc pc')
    (hpc : ¬ Steering p pc) :
    pc' ≠ .refresh ∧ leg p pc' = leg p pc ∨
      pc' ≠ .refresh ∧ leg p pc ≠ .unborn ∧ leg p pc' = .ended ∨
      pc' = .refresh ∧ leg p pc = .moved ∧ leg p pc' = .waiting := by
  cases p <;> unfold next at h <;> split at h <;> grind [leg, asks, Steering]

lemma next_ne_refresh {n : ℕ} {p : Player} {pc pc' : Pc} (h : next n pc pc')
    (hpc : Steering p pc) : pc' ≠ .refresh := by
  cases p <;> rcases hpc with rfl | rfl | rfl | rfl <;> simp only [next, asks] at h <;> grind

def helm (p : Player) (g : Game) : Helm := ⟨g.dirOf p, (g.side p).snakeEnd⟩

/-- The key of `p` that a step reads, when it is the one where `main` reads it. -/
def keyRead (p : Player) (e : Input) : ℤ :=
  match p with
  | .one => e.key.toNat
  | .two => e.getch

/-- What a step from `c` to `c'` can do to the steering of the player `p`. -/
inductive Steers (p : Player) (c c' : Config) (e : Input) : Prop where
  | born (pc : c.pc = .initSnake p)
      (helm : helm p c'.game = ⟨c.game.dirOf p, ⟨initRow p c.game, 3, .right⟩⟩)
      (before : leg p c.pc = .unborn) (after : leg p c'.pc = .waiting)
  | key (pc : c.pc = asks p) (helm : helm p c'.game = helm p c.game)
      (key : c'.game.keyOf p = keyRead p e)
      (before : leg p c.pc = .waiting) (after : leg p c'.pc = .keyed)
  | turn (pc : c.pc = .setDir p) (helm : helm p c'.game =
        ⟨(keyDir p (c.game.keyOf p)).getD (c.game.dirOf p), (c.game.side p).snakeEnd⟩)
      (before : leg p c.pc = .keyed) (after : leg p c'.pc = .steered)
  | move (pc : c.pc = .snakeMove p)
      (helm : helm p c'.game = ⟨c.game.dirOf p, nextHead (c.game.dirOf p) (c.game.side p)⟩)
      (before : leg p c.pc = .steered) (after : leg p c'.pc = .moved)
  | done (pc : ¬ Steering p c.pc) (refresh : c'.pc = .refresh)
      (helm : helm p c'.game = helm p c.game)
      (before : leg p c.pc = .moved) (after : leg p c'.pc = .waiting)
  | idle (pc : ¬ Steering p c.pc) (refresh : c'.pc ≠ .refresh)
      (helm : helm p c'.game = helm p c.game) (key : c'.game.keyOf p = c.game.keyOf p)
      (same : leg p c'.pc = leg p c.pc)
  | ends (pc : ¬ Steering p c.pc) (refresh : c'.pc ≠ .refresh)
      (before : leg p c.pc ≠ .unborn) (after : leg p c'.pc = .ended)

/-- The head stays where it is, except where the snake is made and where it moves. -/
lemma step_snakeEnd {c c' : Config} {e : Input} {p : Player} (hp : Plays c.game p)
    (h : step c e = some c') (hinit : c.pc ≠ .initSnake p) (hmove : c.pc ≠ .snakeMove p) :
    (c'.game.side p).snakeEnd = (c.game.side p).snakeEnd := by
  cases step_turn hp h with
  | born pc | move pc => contradiction
  | wall pc game | crash pc game => rw [game]
  | eat pc game =>
    rw [game]
    rcases side_bonusCheck_self c.game p with ⟨-, hs⟩ | ⟨-, hs⟩ <;> rw [hs]
  | idle init move eat side | ends init move eat side => rw [side]

lemma step_key {c c' : Config} {e : Input} {p : Player} (hp : Plays c.game p)
    (h : step c e = some c') (hpc : c.pc = asks p) : c'.game.keyOf p = keyRead p e := by
  obtain ⟨pc, g⟩ := c
  obtain rfl : pc = asks p := hpc
  cases p with
  | one =>
    obtain rfl := Option.some_inj.1 h
    rfl
  | two =>
    obtain rfl := Option.some_inj.1 h
    have htwo : g.nbPlayer = 2 := hp.resolve_left (by simp)
    simp only [if_pos htwo]
    rfl

lemma step_dir {c c' : Config} {e : Input} {p : Player} (hp : Plays c.game p)
    (h : step c e = some c') (hpc : c.pc = .setDir p) :
    c'.game.dirOf p = (keyDir p (c.game.keyOf p)).getD (c.game.dirOf p) := by
  obtain ⟨pc, g⟩ := c
  obtain rfl : pc = .setDir p := hpc
  have hgame : c'.game = steer p g := by
    cases p <;> obtain rfl := Option.some_inj.1 h <;> rfl
  rw [hgame, steer_eq, if_pos hp, dirOf_setDirOf]

/-- **`Steers` lists everything a step can do to the steering of a player.** -/
theorem step_steers {c c' : Config} {e : Input} {p : Player} (hp : Plays c.game p)
    (h : step c e = some c') : Steers p c c' e := by
  have hnext := step_next h
  have hkeeps := step_keeps h
  obtain ⟨hborn, hkey, hturn, hmove⟩ := next_leg_steering hp hnext
  have hhelm : c.pc ≠ .initSnake p → c.pc ≠ .snakeMove p → c.pc ≠ .setDir p →
      helm p c'.game = helm p c.game := by
    intro h1 h2 h3
    rw [helm, step_snakeEnd hp h h1 h2, hkeeps.dir p h3]
    rfl
  by_cases hpc : Steering p c.pc
  · rcases hpc with pc | pc | pc | pc
    · refine .born pc ?_ (hborn pc).1 (hborn pc).2
      rw [helm, side_of_initSnake hp h pc, hkeeps.dir p (by simp [pc]), initSnake,
        side_setSide_self]
      rfl
    · refine .key pc (hhelm ?_ ?_ ?_) (step_key hp h pc) (hkey pc).1 (hkey pc).2 <;>
        cases p <;> simp [pc, asks]
    · refine .turn pc ?_ (hturn pc).1 (hturn pc).2
      rw [helm, step_dir hp h pc, step_snakeEnd hp h (by simp [pc]) (by simp [pc])]
    · refine .move pc ?_ (hmove pc).1 (hmove pc).2
      rw [helm, side_of_snakeMove hp h pc, hkeeps.dir p (by simp [pc]), snakeMove_eq,
        moveTo_snakeEnd]
  · have hfour := hpc
    simp only [Steering, not_or] at hfour
    obtain ⟨h1, h2, h3, h4⟩ := hfour
    rcases next_leg hp hnext hpc with ⟨href, hleg⟩ | ⟨href, hbefore, hleg⟩ | ⟨href, hbefore, hleg⟩
    · exact .idle hpc href (hhelm h1 h4 h3) (hkeeps.key p h2) hleg
    · exact .ends hpc href hbefore hleg
    · exact .done hpc href (hhelm h1 h4 h3) hbefore hleg

/-! ### The course of a run -/

/-- The row of the player `p` where a step makes its snake. -/
def rowAtInit (p : Player) (c : Config) (_ : Input) : List ℤ :=
  if c.pc = .initSnake p then [initRow p c.game] else []

/-- The key of the player `p` that a step reads at the top of a frame. -/
def frameKey (p : Player) (c : Config) (e : Input) : List ℤ :=
  if c.pc = asks p then [keyRead p e] else []

/-- The heading of the player `p`, which is the `dir` of its head cell, before a move. -/
def headingBefore (p : Player) (c : Config) (_ : Input) : List Dir :=
  if c.pc = .snakeMove p then [(c.game.side p).snakeEnd.dir] else []

/-- The state that a step comes to at the end of a frame that does not end the game. -/
def frameEnd (c : Config) (e : Input) : List Game :=
  (step c e).elim [] fun c' => if c'.pc = .refresh then [c'.game] else []

/-- The head of the player `p`, with its heading, where a step ends a frame. -/
def frameHead (p : Player) (c : Config) (e : Input) : List Pos :=
  (frameEnd c e).map fun g => (g.side p).snakeEnd

/-- The keys `ks` have taken a snake from the row `r` to the helm `h`, with the headings `B`
before the moves and the heads `H` after them. -/
structure Sailed (r : ℤ) (ks : List (Option Dir)) (B : List Dir) (H : List Pos) (h : Helm) :
    Prop where
  helm : h = atKey r ks
  headings : B = courseHeadings r ks
  heads : H = courseHeads r ks

/-- What holds of the steering of the player `p` at every program point, with `R` the row of its
snake once there is one, `K` the directions of the keys read so far, `B` the headings before its
moves and `H` its heads at the ends of the frames. -/
def Plotted (p : Player) (R : List ℤ) (K : List (Option Dir)) (B : List Dir) (H : List Pos)
    (c : Config) : Prop :=
  match leg p c.pc with
  | .unborn => R = [] ∧ K = [] ∧ B = [] ∧ H = [] ∧ c.game.dirOf p = .right
  | .waiting => ∃ r, R = [r] ∧ Sailed r K B H (helm p c.game)
  | .keyed => ∃ r ks, R = [r] ∧ K = ks ++ [keyDir p (c.game.keyOf p)] ∧
      Sailed r ks B H (helm p c.game)
  | .steered => ∃ r ks k h, R = [r] ∧ K = ks ++ [k] ∧ Sailed r ks B H h ∧
      helm p c.game = ⟨k.getD h.want, h.head⟩
  | .moved => ∃ r, R = [r] ∧ Sailed r K B (H ++ [(c.game.side p).snakeEnd]) (helm p c.game)
  | .ended => ∃ r, R = [r] ∧ B <+: courseHeadings r K ∧ H <+: courseHeads r K

section Plotted

variable {p : Player} {R : List ℤ} {K : List (Option Dir)} {B : List Dir} {H : List Pos}
  {c c' : Config} {e : Input}

lemma plotted_unborn (h : leg p c.pc = .unborn) : Plotted p R K B H c ↔
    R = [] ∧ K = [] ∧ B = [] ∧ H = [] ∧ c.game.dirOf p = .right := by rw [Plotted, h]

lemma plotted_waiting (h : leg p c.pc = .waiting) : Plotted p R K B H c ↔
    ∃ r, R = [r] ∧ Sailed r K B H (helm p c.game) := by rw [Plotted, h]

lemma plotted_keyed (h : leg p c.pc = .keyed) : Plotted p R K B H c ↔
    ∃ r ks, R = [r] ∧ K = ks ++ [keyDir p (c.game.keyOf p)] ∧ Sailed r ks B H (helm p c.game) := by
  rw [Plotted, h]

lemma plotted_steered (h : leg p c.pc = .steered) : Plotted p R K B H c ↔
    ∃ r ks k h, R = [r] ∧ K = ks ++ [k] ∧ Sailed r ks B H h ∧
      helm p c.game = ⟨k.getD h.want, h.head⟩ := by rw [Plotted, h]

lemma plotted_moved (h : leg p c.pc = .moved) : Plotted p R K B H c ↔
    ∃ r, R = [r] ∧ Sailed r K B (H ++ [(c.game.side p).snakeEnd]) (helm p c.game) := by
  rw [Plotted, h]

lemma plotted_ended (h : leg p c.pc = .ended) : Plotted p R K B H c ↔
    ∃ r, R = [r] ∧ B <+: courseHeadings r K ∧ H <+: courseHeads r K := by rw [Plotted, h]

/-- The keys of the frame that is not over yet are ahead of its head. -/
lemma Sailed.concat_prefix {r : ℤ} {h : Helm} (hs : Sailed r K B H h) (k : Option Dir) :
    B <+: courseHeadings r (K ++ [k]) ∧ H <+: courseHeads r (K ++ [k]) := by
  rw [hs.headings, hs.heads, courseHeadings_concat, courseHeads_concat]
  exact ⟨List.prefix_append _ _, List.prefix_append _ _⟩

/-- Once there is a snake, its headings and heads so far are the beginning of its course. -/
lemma Plotted.course (h : Plotted p R K B H c) (hborn : leg p c.pc ≠ .unborn) :
    ∃ r, R = [r] ∧ B <+: courseHeadings r K ∧ H <+: courseHeads r K := by
  cases hleg : leg p c.pc with
  | unborn => exact absurd hleg hborn
  | waiting =>
    obtain ⟨r, hR, hs⟩ := (plotted_waiting hleg).1 h
    exact ⟨r, hR, hs.headings ▸ List.prefix_refl _, hs.heads ▸ List.prefix_refl _⟩
  | keyed =>
    obtain ⟨r, ks, hR, rfl, hs⟩ := (plotted_keyed hleg).1 h
    exact ⟨r, hR, hs.concat_prefix _⟩
  | steered =>
    obtain ⟨r, ks, k, h', hR, rfl, hs, -⟩ := (plotted_steered hleg).1 h
    exact ⟨r, hR, hs.concat_prefix k⟩
  | moved =>
    obtain ⟨r, hR, hs⟩ := (plotted_moved hleg).1 h
    exact ⟨r, hR, hs.headings ▸ List.prefix_refl _, hs.heads ▸ List.prefix_append _ _⟩
  | ended => exact (plotted_ended hleg).1 h

lemma rowAtInit_eq_nil (h : c.pc ≠ .initSnake p) : rowAtInit p c e = [] := if_neg h

lemma frameKey_eq_nil (h : c.pc ≠ asks p) : frameKey p c e = [] := if_neg h

lemma headingBefore_eq_nil (h : c.pc ≠ .snakeMove p) : headingBefore p c e = [] := if_neg h

lemma frameHead_eq_nil (h : step c e = some c') (hpc : c'.pc ≠ .refresh) :
    frameHead p c e = [] := by simp [frameHead, frameEnd, h, hpc]

/-- **One step keeps the course.** -/
theorem Plotted.step (hp : Plays c.game p) (h : Plotted p R K B H c) (hstep : step c e = some c') :
    Plotted p (R ++ rowAtInit p c e) (K ++ (frameKey p c e).map (keyDir p))
      (B ++ headingBefore p c e) (H ++ frameHead p c e) c' := by
  -- the statements that do not steer write nothing down but the end of a frame
  have quiet : ¬ Steering p c.pc → Plotted p R K B (H ++ frameHead p c e) c' →
      Plotted p (R ++ rowAtInit p c e) (K ++ (frameKey p c e).map (keyDir p))
        (B ++ headingBefore p c e) (H ++ frameHead p c e) c' := by
    intro hpc h'
    simp only [Steering, not_or] at hpc
    obtain ⟨h1, h2, -, h4⟩ := hpc
    rwa [rowAtInit_eq_nil h1, frameKey_eq_nil h2, headingBefore_eq_nil h4, List.append_nil,
      List.map_nil, List.append_nil, List.append_nil]
  -- and the others do not end a frame
  have steering : Steering p c.pc → frameHead p c e = [] := fun hpc =>
    frameHead_eq_nil hstep (next_ne_refresh (step_next hstep) hpc)
  cases step_steers hp hstep with
  | born pc helm before after =>
    obtain ⟨rfl, rfl, rfl, rfl, hdir⟩ := (plotted_unborn before).1 h
    have hrow : rowAtInit p c e = [initRow p c.game] := if_pos pc
    rw [hrow, frameKey_eq_nil (by cases p <;> simp [pc, asks]), headingBefore_eq_nil (by simp [pc]),
      steering (Or.inl pc)]
    refine (plotted_waiting after).2 ⟨initRow p c.game, rfl, ?_, rfl, rfl⟩
    rw [helm, hdir]
    rfl
  | key pc helm key before after =>
    obtain ⟨r, rfl, hs⟩ := (plotted_waiting before).1 h
    have hkey : frameKey p c e = [c'.game.keyOf p] := by rw [key]; exact if_pos pc
    rw [rowAtInit_eq_nil (by cases p <;> simp [pc, asks]), hkey,
      headingBefore_eq_nil (by cases p <;> simp [pc, asks]), steering (Or.inr (Or.inl pc)),
      List.append_nil, List.append_nil, List.append_nil]
    exact (plotted_keyed after).2 ⟨r, K, rfl, rfl, helm ▸ hs⟩
  | turn pc helm before after =>
    obtain ⟨r, ks, rfl, rfl, hs⟩ := (plotted_keyed before).1 h
    rw [rowAtInit_eq_nil (by simp [pc]), frameKey_eq_nil (by cases p <;> simp [pc, asks]),
      headingBefore_eq_nil (by simp [pc]), steering (Or.inr (Or.inr (Or.inl pc))),
      List.append_nil, List.map_nil, List.append_nil, List.append_nil, List.append_nil]
    exact (plotted_steered after).2 ⟨r, ks, _, _, rfl, rfl, hs, helm⟩
  | move pc helm before after =>
    obtain ⟨r, ks, k, h', rfl, rfl, hs, hh⟩ := (plotted_steered before).1 h
    obtain ⟨hdir, hend⟩ := Helm.mk.inj hh
    have hbefore : headingBefore p c e = [h'.head.dir] := by rw [← hend]; exact if_pos pc
    have hturn : Snake.helm p c'.game = atKey r (ks ++ [k]) := by
      rw [helm, nextHead, hdir, hend, atKey_concat, ← hs.helm]
      rfl
    rw [rowAtInit_eq_nil (by simp [pc]), frameKey_eq_nil (by cases p <;> simp [pc, asks]),
      hbefore, steering (Or.inr (Or.inr (Or.inr pc))), List.append_nil, List.map_nil,
      List.append_nil, List.append_nil]
    refine (plotted_moved after).2 ⟨r, rfl, hturn, ?_, ?_⟩
    · rw [courseHeadings_concat, hs.headings, hs.helm]
    · rw [courseHeads_concat, hs.heads, ← hturn]
      rfl
  | done pc refresh helm before after =>
    refine quiet pc ?_
    obtain ⟨r, rfl, hs⟩ := (plotted_moved before).1 h
    have hhead : frameHead p c e = [(c'.game.side p).snakeEnd] := by
      simp [frameHead, frameEnd, hstep, refresh]
    obtain ⟨-, hend⟩ := Helm.mk.inj helm
    rw [hhead, hend]
    exact (plotted_waiting after).2 ⟨r, rfl, helm ▸ hs⟩
  | idle pc refresh helm key same =>
    refine quiet pc ?_
    obtain ⟨-, hend⟩ := Helm.mk.inj helm
    rw [frameHead_eq_nil hstep refresh, List.append_nil]
    unfold Plotted at *
    rw [same, helm, key, hend]
    obtain ⟨hdir, -⟩ := Helm.mk.inj helm
    rwa [hdir]
  | ends pc refresh before after =>
    refine quiet pc ?_
    rw [frameHead_eq_nil hstep refresh, List.append_nil]
    exact (plotted_ended after).2 (h.course before)

end Plotted

/-! ### Every run -/

/-- The keys of the player `p` at the top of the frames of a run. -/
def keysOf (p : Player) (c₀ : Config) (es : List Input) : List ℤ := main.log (frameKey p) c₀ es

/-- The head cells of the player `p` at the ends of the frames of a run that did not end it. -/
def headsOf (p : Player) (c₀ : Config) (es : List Input) : List Pos :=
  main.log (frameHead p) c₀ es

/-- The headings of the player `p` before its moves in a run. -/
def headingsOf (p : Player) (c₀ : Config) (es : List Input) : List Dir :=
  main.log (headingBefore p) c₀ es

/-- How many frames of a run are over and did not end it. -/
def framesOf (c₀ : Config) (es : List Input) : ℕ := (main.log frameEnd c₀ es).length

def maxYAtInit (c : Config) (_ : Input) : List ℤ :=
  if c.pc = .initSnake .two then [c.game.maxY] else []

/-- `max_y` when `init_snake` made the snake of player 2. -/
def initMaxY (c₀ : Config) (es : List Input) : List ℤ := main.log maxYAtInit c₀ es

section Run

variable {arg arg' : List Char} {ch2 ch2' : ℤ} {es es' : List Input} {c c' : Config} {p : Player}
  {n : ℕ}

/-- **The head follows the keys**: in every run the heads of a player are the beginning of the
course that its keys plot. -/
theorem run_plotted (hrun : main.run (initial arg ch2) es = some c) (hp : Plays c.game p) :
    Plotted p (main.log (rowAtInit p) (initial arg ch2) es)
      ((keysOf p (initial arg ch2) es).map (keyDir p)) (headingsOf p (initial arg ch2) es)
      (headsOf p (initial arg ch2) es) c := by
  refine Machine.run_induction (P := fun es c => Plays c.game p →
    Plotted p (main.log (rowAtInit p) (initial arg ch2) es)
      ((keysOf p (initial arg ch2) es).map (keyDir p)) (headingsOf p (initial arg ch2) es)
      (headsOf p (initial arg ch2) es) c) ?_ ?_ hrun hp
  · intro _
    exact (plotted_unborn rfl).2 ⟨rfl, rfl, rfl, rfl, by cases p <;> rfl⟩
  · intro es c e c' hrun hplotted hstep hp
    have hp' := (step_plays hstep p).1 hp
    rw [keysOf, headingsOf, headsOf, Machine.log_snoc _ hrun, Machine.log_snoc _ hrun,
      Machine.log_snoc _ hrun, Machine.log_snoc _ hrun, List.map_append]
    exact (hplotted hp').step hp' hstep

lemma length_headsOf (p : Player) (c₀ : Config) (es : List Input) :
    (headsOf p c₀ es).length = framesOf c₀ es := by
  simp [headsOf, framesOf, frameHead, Machine.log, List.length_flatMap]

/-- The first `n` heads depend on the row and on the first `n` keys. -/
lemma take_headsOf (hrun : main.run (initial arg ch2) es = some c) (hp : Plays c.game p)
    (h0 : 0 < n) (hn : n ≤ framesOf (initial arg ch2) es) :
    ∃ r, main.log (rowAtInit p) (initial arg ch2) es = [r] ∧
      headingsOf p (initial arg ch2) es <+:
        courseHeadings r ((keysOf p (initial arg ch2) es).map (keyDir p)) ∧
      (headsOf p (initial arg ch2) es).take n =
        (courseHeads r ((keysOf p (initial arg ch2) es).map (keyDir p))).take n := by
  have hplotted := run_plotted hrun hp
  rw [← length_headsOf p] at hn
  have hborn : leg p c.pc ≠ .unborn := by
    intro hleg
    obtain ⟨-, -, -, hnil, -⟩ := (plotted_unborn hleg).1 hplotted
    rw [hnil] at hn
    simp at hn
    omega
  obtain ⟨r, hR, hB, hH⟩ := hplotted.course hborn
  refine ⟨r, hR, hB, ?_⟩
  obtain ⟨rest, hrest⟩ := hH
  rw [← hrest, List.take_append_of_le_length hn]

/-- The row of player 1 is always the same, and that of player 2 depends on `max_y`. -/
lemma rowAtInit_eq {r r' : ℤ} (hR : main.log (rowAtInit p) (initial arg ch2) es = [r])
    (hR' : main.log (rowAtInit p) (initial arg' ch2') es' = [r'])
    (hinit : p = .two → initMaxY (initial arg ch2) es = initMaxY (initial arg' ch2') es') :
    r = r' := by
  cases p with
  | one =>
    have hrow : ∀ c₀ es, ∀ r ∈ main.log (rowAtInit .one) c₀ es, r = 2 := by
      intro c₀ es r hr
      obtain ⟨x, -, hx⟩ := List.mem_flatMap.1 hr
      simp only [rowAtInit] at hx
      split_ifs at hx
      · exact List.mem_singleton.1 hx
      · cases hx
    rw [hrow (initial arg ch2) es r (by simp [hR]), hrow (initial arg' ch2') es' r' (by simp [hR'])]
  | two =>
    have hrow : ∀ c₀ es, main.log (rowAtInit .two) c₀ es = (initMaxY c₀ es).map (· - 3) := by
      intro c₀ es
      rw [initMaxY, Machine.log, Machine.log, List.map_flatMap]
      refine List.flatMap_congr fun x _ => ?_
      simp only [rowAtInit, maxYAtInit]
      split_ifs <;> rfl
    rw [hrow] at hR hR'
    rw [hinit rfl, hR'] at hR
    exact (List.singleton_inj.1 hR).symm

/-- Equal keys plot equal heads. -/
lemma take_headsOf_congr (hrun : main.run (initial arg ch2) es = some c)
    (hrun' : main.run (initial arg' ch2') es' = some c') (hp : Plays c.game p)
    (hp' : Plays c'.game p) (hn : n ≤ framesOf (initial arg ch2) es)
    (hn' : n ≤ framesOf (initial arg' ch2') es')
    (hinit : p = .two → initMaxY (initial arg ch2) es = initMaxY (initial arg' ch2') es')
    (hkeys : (keysOf p (initial arg ch2) es).take n = (keysOf p (initial arg' ch2') es').take n) :
    (headsOf p (initial arg ch2) es).take n = (headsOf p (initial arg' ch2') es').take n := by
  rcases Nat.eq_zero_or_pos n with rfl | h0
  · rw [List.take_zero, List.take_zero]
  · obtain ⟨r, hR, -, hH⟩ := take_headsOf hrun hp h0 hn
    obtain ⟨r', hR', -, hH'⟩ := take_headsOf hrun' hp' h0 hn'
    obtain rfl := rowAtInit_eq hR hR' hinit
    rw [hH, hH', courseHeads_take, courseHeads_take, ← List.map_take, ← List.map_take, hkeys]

/-- **The players steer independently.** Take two runs of two players that have both come to the
end of `n` frames. If player 1 has had the same keys at the top of these frames, its head has had
the same positions and headings at their ends; and so for player 2, if `max_y` was the same when
its snake was made. -/
theorem players_steer_independently (hrun : main.run (initial arg ch2) es = some c)
    (hrun' : main.run (initial arg' ch2') es' = some c') (htwo : c.game.nbPlayer = 2)
    (htwo' : c'.game.nbPlayer = 2) (hn : n ≤ framesOf (initial arg ch2) es)
    (hn' : n ≤ framesOf (initial arg' ch2') es') :
    ((keysOf .one (initial arg ch2) es).take n = (keysOf .one (initial arg' ch2') es').take n →
      (headsOf .one (initial arg ch2) es).take n = (headsOf .one (initial arg' ch2') es').take n) ∧
    (initMaxY (initial arg ch2) es = initMaxY (initial arg' ch2') es' →
      (keysOf .two (initial arg ch2) es).take n = (keysOf .two (initial arg' ch2') es').take n →
      (headsOf .two (initial arg ch2) es).take n =
        (headsOf .two (initial arg' ch2') es').take n) := by
  constructor
  · intro hkeys
    exact take_headsOf_congr hrun hrun' (Or.inl rfl) (Or.inl rfl) hn hn' (fun h => by cases h) hkeys
  · intro hinit hkeys
    exact take_headsOf_congr hrun hrun' (Or.inr htwo) (Or.inr htwo') hn hn' (fun _ => hinit) hkeys

end Run

/-- Two players again: player 1 has the keys of `duelRun`, but there are no bonuses, the window is
larger, and player 2 does not turn. -/
def calmRun : List Input :=
  (gameInputs 2 (9, 12) ['0'] [(40, -1, 0, 0, 0), (48, -1, 0, 0, 0)]).dropLast

theorem players_steer_independently_duel :
    headsOf .one (initial ['2'] 0) duelRun = [⟨3, 3, .down⟩, ⟨3, 2, .left⟩] ∧
      (headsOf .one (initial ['2'] 0) duelRun).take 2 =
        (headsOf .one (initial ['2'] 7) calmRun).take 2 := by
  have h : (main.run (initial ['2'] 0) duelRun).map (fun c => c.game.nbPlayer) = some 2 := by
    decide +kernel
  have h' : (main.run (initial ['2'] 7) calmRun).map (fun c => c.game.nbPlayer) = some 2 := by
    decide +kernel
  obtain ⟨c, hrun, htwo⟩ := Option.map_eq_some_iff.1 h
  obtain ⟨c', hrun', htwo'⟩ := Option.map_eq_some_iff.1 h'
  refine ⟨by decide +kernel, (players_steer_independently hrun hrun' htwo htwo' ?_ ?_).1 ?_⟩ <;>
    decide +kernel

section Ignored

variable {arg arg' : List Char} {ch2 ch2' : ℤ} {es es' : List Input} {c c' : Config} {p : Player}
  {n i : ℕ} {k k' : ℤ} {d : Dir}

/-- **Ignored turns leave no trace.** In a run, let the key `k` of the player `p` in some frame be
its heading before the move or the opposite. A run in which that key is replaced by one that
stands for no direction, and the other keys of `p` are the same, has the same head positions and
headings of `p` at the ends of all frames that both runs come to the end of. -/
theorem ignored_turns_leave_no_trace (hrun : main.run (initial arg ch2) es = some c)
    (hrun' : main.run (initial arg' ch2') es' = some c') (hp : Plays c.game p)
    (hp' : Plays c'.game p)
    (hinit : p = .two → initMaxY (initial arg ch2) es = initMaxY (initial arg' ch2') es')
    (hn : n ≤ framesOf (initial arg ch2) es) (hn' : n ≤ framesOf (initial arg' ch2') es')
    (hk : (keysOf p (initial arg ch2) es)[i]? = some k)
    (hd : (headingsOf p (initial arg ch2) es)[i]? = some d)
    (hignored : keyDir p k = some d ∨ keyDir p k = some d.opp) (hnone : keyDir p k' = none)
    (hkeys : (keysOf p (initial arg' ch2') es').take n =
      ((keysOf p (initial arg ch2) es).set i k').take n) :
    (headsOf p (initial arg' ch2') es').take n = (headsOf p (initial arg ch2) es).take n := by
  rcases Nat.eq_zero_or_pos n with rfl | h0
  · rw [List.take_zero, List.take_zero]
  · obtain ⟨r, hR, hB, hH⟩ := take_headsOf hrun hp h0 hn
    obtain ⟨r', hR', -, hH'⟩ := take_headsOf hrun' hp' h0 hn'
    obtain rfl := rowAtInit_eq hR hR' hinit
    set K := (keysOf p (initial arg ch2) es).map (keyDir p) with hK
    -- the heading and the key of the frame, on the course that the keys plot
    have hheading : (courseHeadings r K)[i]? = some d := by
      obtain ⟨hi, hget⟩ := List.getElem?_eq_some_iff.1 hd
      rw [List.prefix_iff_getElem?.1 hB i hi, hget]
    have hkey : K[i]? = some (some d) ∨ K[i]? = some (some d.opp) := by
      rw [hK, List.getElem?_map, hk]
      exact hignored.imp (congrArg some) (congrArg some)
    have hset : ((keysOf p (initial arg ch2) es).set i k').map (keyDir p) = K.set i none := by
      rw [List.map_set, hnone]
    rw [hH', hH, courseHeads_take, ← List.map_take, hkeys, List.map_take, hset, ← courseHeads_take,
      courseHeads_set r K hheading hkey]

end Ignored

/-- In the first frame the key is LEFT, the opposite of the heading, and then it is DOWN. -/
def reversalRun (key : UInt8) : List Input :=
  (gameInputs 1 (8, 8) ['0'] [(key, -1, 0, 0, 0), (40, -1, 0, 0, 0)]).dropLast

theorem ignored_turns_leave_no_trace_reversal :
    headsOf .one (initial ['1'] 0) (reversalRun 48) = [⟨2, 4, .right⟩, ⟨3, 4, .down⟩] ∧
      (headsOf .one (initial ['1'] 0) (reversalRun 0)).take 2 =
        (headsOf .one (initial ['1'] 0) (reversalRun 48)).take 2 := by
  obtain ⟨c, hrun⟩ : ∃ c, main.run (initial ['1'] 0) (reversalRun 48) = some c :=
    Option.isSome_iff_exists.1 (by decide +kernel)
  obtain ⟨c', hrun'⟩ : ∃ c', main.run (initial ['1'] 0) (reversalRun 0) = some c' :=
    Option.isSome_iff_exists.1 (by decide +kernel)
  have hnone : keyDir .one 0 = none := rfl
  refine ⟨by decide +kernel, ignored_turns_leave_no_trace (i := 0) (k := 48) (d := .right)
    hrun hrun' (Or.inl rfl) (Or.inl rfl) (fun h => by cases h) ?_ ?_ ?_ ?_ ?_ hnone ?_⟩ <;>
    decide +kernel

end UsbJoystick.Snake
