import UsbJoystick.Snake.Overlap

/-!
The two snakes never overlap.

`crash_snake_check` compares each head with the other list, and nothing compares the two bodies.
A body gets new positions in two ways only: a head moves onto them, or a meal puts the tail back.
The second way brings back a position that belonged to the snake before the move, so it is
enough to follow what a snake has or can get back within the frame (`span`): the positions
before the move, and the new head. Two snakes that were apart before the moves can then meet on
a head only, and the checks that pass exclude the heads one after the other (`excused`).
-/

namespace UsbJoystick.Snake

open UsbJoystick.Lib

/-- The positions that a player has, with the freed one as long as a meal can bring it back. -/
def span (p : Player) (c : Config) : List (ℤ × ℤ) :=
  match stage p c.pc with
  | .moved | .walled | .judged => (snakeGrow (c.game.side p).snake).map Pos.xy
  | _ => (c.game.side p).snake.map Pos.xy

def head (p : Player) (c : Config) : ℤ × ℤ := (c.game.side p).snakeEnd.xy

/-- The heads on which the snakes may still meet at a program point. -/
def excused : Pc → List Player
  | .snakeMove .two => [.one]
  | .snakeDisp _ | .wallCheck _ | .crashCheck _ | .bonusCheck _ => [.one, .two]
  | .crashSnakeCheck .two => [.one, .two]
  | .crashSnakeCheck .one => [.one]
  | _ => []

def Alive (c : Config) : Prop := stage .two c.pc ≠ .unborn ∧ stage .two c.pc ≠ .ended

/-- The snakes meet on excused heads only. -/
def Apart (c : Config) : Prop :=
  ∀ q ∈ span .one c, q ∈ span .two c → ∃ p ∈ excused c.pc, q = head p c

section Span

variable {p : Player} {T F : List (ℤ × ℤ)} {c c' : Config} {e : Input}

lemma span_of_not_between (h1 : stage p c.pc ≠ .moved) (h2 : stage p c.pc ≠ .walled)
    (h3 : stage p c.pc ≠ .judged) : span p c = (c.game.side p).snake.map Pos.xy := by
  unfold span
  split <;> simp_all

lemma span_between (h : stage p c.pc = .moved ∨ stage p c.pc = .walled ∨ stage p c.pc = .judged) :
    span p c = (snakeGrow (c.game.side p).snake).map Pos.xy := by
  rcases h with h | h | h <;> rw [span, h]

lemma mem_map_of_mem_snakeGrow {l : List Pos} {q : ℤ × ℤ} (h : q ∈ l.map Pos.xy) :
    q ∈ (snakeGrow l).map Pos.xy := by
  rw [← tail_snakeGrow] at h
  exact List.mem_of_mem_tail h

/-- **What a step does to the span of a player**: a move adds the new head to it, and nothing
else adds anything once the snake is there. -/
theorem span_step (hp : Plays c.game p) (hfit : Fit p T F c) (hstep : step c e = some c')
    (hinit : c.pc ≠ .initSnake p) (hended : stage p c'.pc ≠ .ended) :
    (∀ q ∈ span p c', q ∈ span p c ∨ c.pc = .snakeMove p ∧ q = head p c') ∧
      (c.pc ≠ .snakeMove p → head p c' = head p c) := by
  cases step_turn hp hstep with
  | born pc side before after => exact absurd pc hinit
  | move pc side before after =>
    obtain ⟨w, -, hw⟩ := (fit_rested before).1 hfit
    have hspan : span p c' = span p c ++ [head p c'] := by
      rw [span_between (Or.inl after), span_of_not_between (by simp [before]) (by simp [before])
        (by simp [before]), head, side, map_snakeGrow_snakeMove hw, snakeMove_eq]
      rfl
    refine ⟨fun q hq => ?_, fun hmove => absurd pc hmove⟩
    rw [hspan, List.mem_append, List.mem_singleton] at hq
    exact hq.imp_right fun hq => ⟨pc, hq⟩
  | wall pc game ok before after =>
    refine ⟨fun q hq => Or.inl ?_, fun _ => by rw [head, head, game]⟩
    rwa [span_between (Or.inl before), ← game, ← span_between (Or.inr (Or.inl after))]
  | crash pc game ok before after =>
    refine ⟨fun q hq => Or.inl ?_, fun _ => by rw [head, head, game]⟩
    rwa [span_between (Or.inr (Or.inl before)), ← game, ← span_between (Or.inr (Or.inr after))]
  | eat pc game before after =>
    rw [span_of_not_between (by simp [after]) (by simp [after]) (by simp [after]),
      span_between (Or.inr (Or.inr before)), head, head, game]
    rcases side_bonusCheck_self c.game p with ⟨-, hs⟩ | ⟨-, hs⟩ <;> rw [hs]
    · exact ⟨fun q hq => Or.inl (mem_map_of_mem_snakeGrow hq), fun _ => rfl⟩
    · exact ⟨fun q hq => Or.inl hq, fun _ => rfl⟩
  | idle init move eat side same =>
    refine ⟨fun q hq => Or.inl ?_, fun _ => by rw [head, head, side]⟩
    unfold span at hq ⊢
    rwa [same, side] at hq
  | ends init move eat side after => exact absurd after hended

end Span

/-! ### The checks and the heads -/

section Step

variable {T F : Player → List (ℤ × ℤ)} {c c' : Config} {e : Input}

/-- A head loses its excuse by the check that compares it with the other list, and by no other
statement. -/
lemma excused_step (hp : Plays c.game .two) (h : step c e = some c')
    (hended : stage .two c'.pc ≠ .ended) {r : Player} (hr : r ∈ excused c.pc) :
    r ∈ excused c'.pc ∨ c.pc = .crashSnakeCheck r ∧
      head r c ∉ (c.game.side r.other).snake.map Pos.xy := by
  obtain ⟨pc, g⟩ := c
  cases pc with
  | snakeMove id =>
    cases id <;> obtain rfl := Option.some_inj.1 h
    · cases hr
    · obtain rfl : r = .one := List.mem_singleton.1 hr
      exact Or.inl (by simp [excused])
  | snakeDisp id | bonusCheck id =>
    cases id <;> obtain rfl := Option.some_inj.1 h
    · rw [hp.ifTwo]
      exact Or.inl hr
    · exact Or.inl hr
  | wallCheck id | crashCheck id =>
    obtain rfl := Option.some_inj.1 h
    split_ifs at hended ⊢
    · exact absurd rfl hended
    · exact Or.inl hr
  | crashSnakeCheck id =>
    -- the head of `id` is found not to be on the other list, and the other head keeps its excuse
    have hpass : head id ⟨.crashSnakeCheck id, g⟩ ∉ (g.side id.other).snake.map Pos.xy := by
      intro hmem
      have hcheck := crashSnakeCheck_eq_true.2 hmem
      cases id <;> obtain rfl := Option.some_inj.1 h <;>
        exact hended ((congrArg (fun c : Config => stage .two c.pc) (if_pos hcheck)).trans rfl)
    rcases eq_or_ne r id with rfl | hne
    · exact Or.inr ⟨rfl, hpass⟩
    · left
      cases id <;> cases r <;> simp [excused] at hr hne
      obtain rfl := Option.some_inj.1 h
      split_ifs at hended ⊢
      · exact absurd rfl hended
      · exact List.mem_singleton_self _
  | _ => cases hr

lemma excused_snakeMove (hp : Plays c.game .two) (h : step c e = some c') {r : Player}
    (hpc : c.pc = .snakeMove r) : r ∈ excused c'.pc ∧ r ∉ excused c.pc := by
  obtain ⟨pc, g⟩ := c
  obtain rfl : pc = .snakeMove r := hpc
  cases r <;> obtain rfl := Option.some_inj.1 h
  · rw [hp.ifTwo]
    exact ⟨List.mem_singleton_self _, List.not_mem_nil⟩
  · exact ⟨by simp [excused], by simp [excused]⟩

/-- Until player 2 gets a snake, player 1 keeps the one of `init_snake`. -/
def Waiting (c : Config) : Prop :=
  stage .one c.pc = .rested → stage .two c.pc = .unborn → c.game.one.snake = initCells 2

lemma Waiting.step (hp : Plays c.game .two) (h : Waiting c) (hstep : step c e = some c') :
    Waiting c' := by
  intro hrested hunborn
  have hbefore : stage .two c.pc = .unborn := by
    cases step_turn hp hstep <;> simp_all
  cases step_turn (p := .one) (Or.inl rfl) hstep with
  | born pc side before after =>
    exact (congrArg Side.snake side).trans rfl
  | move pc side before after => simp [after] at hrested
  | wall pc game ok before after => simp [after] at hrested
  | crash pc game ok before after => simp [after] at hrested
  | eat pc game before after => simp [pc, stage] at hbefore
  | idle init move eat side same =>
    exact (congrArg Side.snake side).trans (h (same ▸ hrested) hbefore)
  | ends init move eat side after => simp [after] at hrested

/-- A step leads to a state with both snakes from such a state, or from the `init_snake` of
player 2. -/
lemma alive_before (hp : Plays c.game .two) (hstep : step c e = some c') (h : Alive c') :
    Alive c ∨ c.pc = .initSnake .two := by
  obtain ⟨hborn, hended⟩ := h
  by_cases hpc : c.pc = .initSnake .two
  · exact Or.inr hpc
  · refine Or.inl ⟨fun hunborn => ?_, fun h => hended (step_ended hstep h)⟩
    cases step_turn hp hstep <;> simp_all

lemma apart_initSnake (hwait : Waiting c) (hrow : 6 ≤ c.game.maxY) (hpc : c.pc = .initSnake .two)
    (hstep : step c e = some c') : Apart c' := by
  obtain ⟨pc, g⟩ := c
  obtain rfl : pc = .initSnake .two := hpc
  obtain rfl := Option.some_inj.1 hstep
  have hone : g.one.snake = initCells 2 := hwait rfl rfl
  intro q hq hq'
  have h1 : q ∈ (initCells 2).map Pos.xy := hone ▸ hq
  have h2 : q ∈ (initCells (g.maxY - 3)).map Pos.xy := hq'
  have hrow' : 6 ≤ g.maxY := hrow
  simp only [initCells, headAdd, Pos.xy, List.map_cons, List.map_nil, List.mem_cons,
    List.not_mem_nil, or_false] at h1 h2
  have e1 : q.1 = 2 := by rcases h1 with rfl | rfl | rfl <;> rfl
  have e2 : q.1 = g.maxY - 3 := by rcases h2 with rfl | rfl | rfl <;> rfl
  omega

/-- **One step keeps the snakes apart**, once both are on the board. -/
theorem Apart.step (hp : Plays c.game .two) (hfit : ∀ p, Fit p (T p) (F p) c) (halive : Alive c)
    (halive' : Alive c') (h : Apart c) (hstep : step c e = some c') : Apart c' := by
  have hplays : ∀ p, Plays c.game p := by
    rintro (_ | _)
    · exact Or.inl rfl
    · exact hp
  have hinit : ∀ p, c.pc ≠ .initSnake p := by
    rintro p hpc
    exact halive.1 (by rw [hpc]; cases p <;> rfl)
  have hended : ∀ p, stage p c'.pc ≠ .ended :=
    fun p h => halive'.2 (stage_eq_ended.2 (stage_eq_ended.1 h))
  have hspan := fun p => span_step (hplays p) (hfit p) hstep (hinit p) (hended p)
  intro q hq hq'
  rcases (hspan .one).1 q hq with hone | ⟨hpc, rfl⟩
  · rcases (hspan .two).1 q hq' with htwo | ⟨hpc, rfl⟩
    · obtain ⟨r, hr, rfl⟩ := h q hone htwo
      have hhead : head r c' = head r c :=
        (hspan r).2 fun hpc => (excused_snakeMove hp hstep hpc).2 hr
      rcases excused_step hp hstep (hended .two) hr with hr' | ⟨hpc, hnot⟩
      · exact ⟨r, hr', hhead.symm⟩
      · -- the check would have found the head on the other list
        refine absurd ?_ hnot
        cases r <;> [rw [span, hpc] at htwo; rw [span, hpc] at hone] <;> assumption
    · exact ⟨.two, (excused_snakeMove hp hstep hpc).1, rfl⟩
  · exact ⟨.one, (excused_snakeMove hp hstep hpc).1, rfl⟩

end Step

section Run

variable {arg : List Char} {ch2 : ℤ} {es : List Input} {c : Config}

theorem run_apart
    (hrow : main.Along (fun c _ => ∀ p, c.pc = .initSnake p → 6 ≤ c.game.maxY) (initial arg ch2) es)
    (hrun : main.run (initial arg ch2) es = some c) (hp : Plays c.game .two) :
    Waiting c ∧ (Alive c → Apart c) := by
  refine Machine.along_induction
    (P := fun _ c => Plays c.game .two → Waiting c ∧ (Alive c → Apart c)) ?_ ?_ hrow hrun hp
  · exact fun _ => ⟨fun h => absurd h (by simp [initial, stage]), fun h => absurd rfl h.1⟩
  · intro es c e c' hrun hind hrow hstep hp
    have hp' := (step_plays hstep .two).1 hp
    obtain ⟨hwait, hapart⟩ := hind hp'
    refine ⟨hwait.step hp' hstep, fun halive' => ?_⟩
    rcases alive_before hp' hstep halive' with halive | hpc
    · have hfit : ∀ p, Fit p (trail p (initial arg ch2) es)
          (freedTrail p (initial arg ch2) es) c := by
        rintro (_ | _)
        · exact run_fit hrun (Or.inl rfl)
        · exact run_fit hrun hp'
      exact (hapart halive).step hp' hfit halive halive' hstep
    · exact apart_initSnake hwait (hrow .two hpc) hpc hstep

/-- **The snakes of a two-player game have no cell in common** at the end of a frame that does
not end the game, if the window has six rows or more when the snakes are made. -/
theorem snakes_disjoint
    (hrow : main.Along (fun c _ => ∀ p, c.pc = .initSnake p → 6 ≤ c.game.maxY) (initial arg ch2) es)
    (hrun : main.run (initial arg ch2) es = some c) (hp : c.game.nbPlayer = 2)
    (hpc : c.pc = .refresh) :
    ∀ a ∈ c.game.one.snake, ∀ b ∈ c.game.two.snake, a.xy ≠ b.xy := by
  have halive : Alive c := by rw [Alive, hpc]; exact ⟨by decide, by decide⟩
  have hapart := (run_apart hrow hrun (Or.inr hp)).2 halive
  intro a ha b hb hab
  have hone : a.xy ∈ span .one c := by
    rw [span, hpc]
    exact List.mem_map_of_mem ha
  have htwo : a.xy ∈ span .two c := by
    rw [span, hpc, hab]
    exact List.mem_map_of_mem hb
  obtain ⟨p, hp, -⟩ := hapart a.xy hone htwo
  rw [hpc] at hp
  cases hp

theorem snakes_disjoint_duel :
    ∃ c, main.run (initial ['2'] 0) duelRun = some c ∧ c.pc = .refresh ∧
      c.game.one.snake.length = 4 ∧ c.game.two.snake.length = 4 ∧
      ∀ a ∈ c.game.one.snake, ∀ b ∈ c.game.two.snake, a.xy ≠ b.xy := by
  have h : (main.run (initial ['2'] 0) duelRun).map (fun c => (c.pc, c.game.nbPlayer,
      c.game.one.snake.length, c.game.two.snake.length)) = some (.refresh, 2, 4, 4) := by
    decide +kernel
  have hrow : main.Along (fun c _ => ∀ p, c.pc = .initSnake p → 6 ≤ c.game.maxY)
      (initial ['2'] 0) duelRun := by
    unfold Machine.Along
    decide +kernel
  obtain ⟨c, hc, hpc⟩ := Option.map_eq_some_iff.1 h
  simp only [Prod.mk.injEq] at hpc
  obtain ⟨hpc, hn, h1, h2⟩ := hpc
  exact ⟨c, hc, hpc, h1, h2, snakes_disjoint hrow hc hn hpc⟩

end Run

end UsbJoystick.Snake
