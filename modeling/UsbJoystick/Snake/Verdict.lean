import UsbJoystick.Snake.Overlap

/-!
Who loses a frame.

After the moves of a frame the checks run one after the other: walls and list of player 1, its
meal, walls and list of player 2, its meal, and then each head against the other list. The first
check that fires names the loser. `verdict` is what they come to, and `frame_verdict` compares
it with the rule of the game: a player is at fault (`AtFault`) whose head is on a wall, on
another cell of its own, or on a cell of the opponent.

`crash_check` looks at all pairs of cells and not at the head only. That it never blames a
player for something the head did not just do is `Neat`: before the move, only the first cell
could overlap another one, and the move has dropped it.
-/

namespace UsbJoystick.Snake

open UsbJoystick.Lib

instance : Nonempty Input := ⟨{}⟩

/-- A frame is over: the next one begins, or the program has left the loop. -/
def FrameOver (c : Config) : Prop := c.pc = .refresh ∨ c.pc = .epilogue

instance : DecidablePred FrameOver := fun c => by unfold FrameOver; infer_instance

/-- The player `p` is at fault in a frame that has come to `m` after its moves, and in the end
to `g`. -/
def AtFault (p : Player) (m g : Game) : Prop :=
  wallCheck p m = true ∨ (m.side p).snakeEnd.xy ∈ (m.side p).snake.dropLast.map Pos.xy ∨
    m.nbPlayer = 2 ∧ (m.side p).snakeEnd.xy ∈ (g.side p.other).snake.map Pos.xy

/-! ### The checks as one function -/

def crossVerdict (g : Game) : Config :=
  if crashSnakeCheck g.one.snake .two g then lose .two g
  else if crashSnakeCheck g.two.snake .one g then lose .one g
  else ⟨.refresh, g⟩

def secondVerdict (g : Game) : Config :=
  if wallCheck .two g then lose .two g
  else if crashCheck (g.side .two).snake then lose .two g
  else crossVerdict (bonusCheck .two g)

/-- What the checks of a frame come to, from the state after the moves. -/
def verdict (g : Game) : Config :=
  if wallCheck .one g then lose .one g
  else if crashCheck (g.side .one).snake then lose .one g
  else if g.nbPlayer = 2 then secondVerdict (bonusCheck .one g)
  else ⟨.refresh, bonusCheck .one g⟩

section Verdict

variable {g : Game} {c : Config}

lemma leads_refresh : main.Leads FrameOver ⟨.refresh, g⟩ c ↔ c = ⟨.refresh, g⟩ :=
  Machine.leads_of_mem (Or.inl rfl)

/-- A check either ends the game or hands over to the next one. -/
lemma leads_check {pc pc' : Pc} {p : Player} {b : Bool} {k : Config}
    (hover : ¬ FrameOver ⟨pc, g⟩)
    (hstep : ∀ e, step ⟨pc, g⟩ e = some (if b then lose p g else ⟨pc', g⟩))
    (hnext : main.Leads FrameOver ⟨pc', g⟩ c ↔ c = k) :
    main.Leads FrameOver ⟨pc, g⟩ c ↔ c = if b then lose p g else k := by
  rw [Machine.leads_step hover hstep]
  cases b
  · exact hnext
  · exact Machine.leads_of_mem (Or.inr rfl)

lemma leads_crossVerdict :
    main.Leads FrameOver ⟨.crashSnakeCheck .two, g⟩ c ↔ c = crossVerdict g :=
  leads_check (by simp [FrameOver]) (fun _ => rfl)
    (leads_check (by simp [FrameOver]) (fun _ => rfl) leads_refresh)

lemma leads_secondVerdict : main.Leads FrameOver ⟨.wallCheck .two, g⟩ c ↔ c = secondVerdict g := by
  refine leads_check (by simp [FrameOver]) (fun _ => rfl)
    (leads_check (by simp [FrameOver]) (fun _ => rfl) ?_)
  exact (Machine.leads_step (by simp [FrameOver]) (fun _ => rfl)).trans leads_crossVerdict

/-- **The checks of a frame come to its verdict.** -/
theorem leads_verdict : main.Leads FrameOver ⟨.wallCheck .one, g⟩ c ↔ c = verdict g := by
  refine leads_check (by simp [FrameOver]) (fun _ => rfl)
    (leads_check (by simp [FrameOver]) (fun _ => rfl) ?_)
  refine (Machine.leads_step (by simp [FrameOver]) (fun _ => rfl)).trans ?_
  simp only [Game.ifTwo]
  split_ifs
  · exact leads_secondVerdict
  · exact leads_refresh

end Verdict

/-! ### What the verdict says -/

section Fault

variable {g : Game} {p : Player}

/-- After a move, `crash_check` fires exactly when the head is on another cell of the list. -/
lemma crashCheck_eq_true_iff {s : Side} (hlast : s.snake.getLast? = some s.snakeEnd)
    (hneat : (s.snake.map Pos.xy).dropLast.Nodup) :
    crashCheck s.snake = true ↔ s.snakeEnd.xy ∈ s.snake.dropLast.map Pos.xy := by
  have hsplit : (s.snake.map Pos.xy).dropLast ++ [s.snakeEnd.xy] = s.snake.map Pos.xy :=
    List.dropLast_append_getLast? _ (by simp [hlast])
  rw [← Bool.not_eq_false, crashCheck_eq_false, ← hsplit, List.nodup_append_comm,
    List.singleton_append, List.nodup_cons, and_iff_left hneat, not_not, List.map_dropLast]

@[simp] lemma snakeEnd_bonusCheck (q : Player) :
    ((bonusCheck q g).side p).snakeEnd = (g.side p).snakeEnd := by
  by_cases h : p = q
  · subst h
    rcases side_bonusCheck_self g p with ⟨-, hs⟩ | ⟨-, hs⟩ <;> rw [hs]
  · rw [side_bonusCheck_ne g h]

@[simp] lemma wallCheck_bonusCheck (q : Player) : wallCheck p (bonusCheck q g) = wallCheck p g := by
  have hY : (bonusCheck q g).maxY = g.maxY ∧ (bonusCheck q g).maxX = g.maxX := by
    rcases bonusCheck_cases g q with ⟨-, hg⟩ | ⟨i, -, hg⟩ <;> rw [hg] <;> cases q <;>
      exact ⟨rfl, rfl⟩
  simp [wallCheck, hY]

def Moved (p : Player) (g : Game) : Prop :=
  (g.side p).snake.getLast? = some (g.side p).snakeEnd ∧
    ((g.side p).snake.map Pos.xy).dropLast.Nodup

/-- **The verdict follows the rule**: a loser is at fault, and a frame that goes on has no player
at fault. -/
theorem verdict_cases (hmoved : ∀ p, Plays g p → Moved p g) :
    (∃ p g', verdict g = lose p g' ∧ Plays g p ∧ AtFault p g g') ∨
      ∃ g', verdict g = ⟨.refresh, g'⟩ ∧ ∀ p, Plays g p → ¬ AtFault p g g' := by
  have hone : Plays g .one := Or.inl rfl
  have hcrash : ∀ p, Plays g p → (crashCheck (g.side p).snake = true ↔
      (g.side p).snakeEnd.xy ∈ (g.side p).snake.dropLast.map Pos.xy) :=
    fun p hp => crashCheck_eq_true_iff (hmoved p hp).1 (hmoved p hp).2
  unfold verdict
  split_ifs with hw₁ hc₁ htwo
  · exact Or.inl ⟨.one, g, rfl, hone, Or.inl hw₁⟩
  · exact Or.inl ⟨.one, g, rfl, hone, Or.inr (Or.inl ((hcrash .one hone).1 hc₁))⟩
  · -- two players: the lists are compared as the meals leave them
    have hplays : Plays g .two := Or.inr htwo
    have hside : (bonusCheck .one g).side .two = g.side .two := side_bonusCheck_ne g (by simp)
    unfold secondVerdict
    split_ifs with hw₂ hc₂
    · exact Or.inl ⟨.two, _, rfl, hplays, Or.inl (by simpa using hw₂)⟩
    · rw [hside] at hc₂
      exact Or.inl ⟨.two, _, rfl, hplays, Or.inr (Or.inl ((hcrash .two hplays).1 hc₂))⟩
    · rw [hside] at hc₂
      unfold crossVerdict
      split_ifs with hx₂ hx₁
      · rw [crashSnakeCheck_eq_true, snakeEnd_bonusCheck, snakeEnd_bonusCheck] at hx₂
        exact Or.inl ⟨.two, _, rfl, hplays, Or.inr (Or.inr ⟨htwo, hx₂⟩)⟩
      · rw [crashSnakeCheck_eq_true, snakeEnd_bonusCheck, snakeEnd_bonusCheck] at hx₁
        exact Or.inl ⟨.one, _, rfl, hone, Or.inr (Or.inr ⟨htwo, hx₁⟩)⟩
      · rw [crashSnakeCheck_eq_true, snakeEnd_bonusCheck, snakeEnd_bonusCheck] at hx₁ hx₂
        refine Or.inr ⟨_, rfl, fun p hp => ?_⟩
        cases p
        · rintro (h | h | ⟨-, h⟩)
          · exact hw₁ h
          · exact hc₁ ((hcrash .one hone).2 h)
          · exact hx₁ h
        · rintro (h | h | ⟨-, h⟩)
          · exact hw₂ (by simpa using h)
          · exact hc₂ ((hcrash .two hplays).2 h)
          · exact hx₂ h
  · refine Or.inr ⟨_, rfl, fun p hp => ?_⟩
    obtain rfl : p = .one := hp.resolve_right htwo
    rintro (h | h | ⟨h, -⟩)
    · exact hw₁ h
    · exact hc₁ ((hcrash .one hone).2 h)
    · exact htwo h

end Fault

/-! ### Before the checks -/

def BeforeChecks : Pc → Prop
  | .getmaxyx | .keyPressed | .getch | .pause | .quitOpen | .quitDisp _ | .setDir _ | .uiDraw
  | .scoreDisp _ | .bonusCreate | .bonusDisp | .snakeMove _ | .snakeDisp _ => True
  | _ => False

/-- Up to the checks, a frame goes on without a loser, comes to the checks, or is left by the
pause menu. -/
def Undecided (c : Config) : Prop :=
  (BeforeChecks c.pc ∨ c.pc = .wallCheck .one ∨ c.pc = .epilogue) ∧ c.game.loose = none

def ChecksBegin (c : Config) : Prop := c.pc = .wallCheck .one ∨ FrameOver c

instance : DecidablePred ChecksBegin := fun c => by unfold ChecksBegin; infer_instance

lemma not_checks_of_beforeChecks {pc : Pc} (hb : BeforeChecks pc) : ¬ Checks pc := by
  cases pc <;> first | exact id | exact hb.elim

/-- From the top of a frame to its checks, unless the pause menu is left with `QUIT`. -/
lemma next_beforeChecks {n : ℕ} {pc pc' : Pc} (h : next n pc pc') (hb : BeforeChecks pc) :
    BeforeChecks pc' ∨ pc' = .wallCheck .one ∨ pc' = .epilogue := by
  unfold next at h
  split at h <;> grind [BeforeChecks]

lemma run_loose {arg : List Char} {ch2 : ℤ} {es : List Input} {c : Config}
    (hrun : main.run (initial arg ch2) es = some c) (hpc : stage .one c.pc ≠ .ended) :
    c.game.loose = none := by
  refine Machine.run_inv (I := fun c => stage .one c.pc ≠ .ended → c.game.loose = none)
    (fun _ => rfl) ?_ hrun hpc
  intro c e c' hI hstep hpc'
  rcases (step_leaves hstep).loose with hloose | ⟨-, hpc⟩
  · exact hloose.trans (hI fun hended => hpc' (step_ended hstep hended))
  · simp [hpc, stage] at hpc'

/-! ### Every frame -/

section Run

variable {arg : List Char} {ch2 : ℤ} {es es₁ : List Input} {t m : Config}

lemma run_moved (hrun : main.run (initial arg ch2) es = some m) (hpc : m.pc = .wallCheck .one)
    (p : Player) (hp : Plays m.game p) : Moved p m.game := by
  have hstage : stage p m.pc = .moved := by rw [hpc]; cases p <;> rfl
  obtain ⟨w, -, hw, -⟩ := (fit_between (Or.inl hstage)).1 (run_fit hrun hp)
  exact ⟨hw.last, (neat_moved (Or.inl hstage)).1 (run_neat hrun hp)⟩

/-- **Who loses a frame.** A frame that begins in a reachable state comes to its checks, or is
left by the pause menu with `loose = 0` before its moves. When it comes to its checks in the
state `m`, it also comes to its end; it breaks out of the loop with `loose = 1` or `2` exactly
when a player is at fault, and the player named by `loose` is. -/
theorem frame_verdict (hrun : main.run (initial arg ch2) es = some t) (ht : t.pc = .getmaxyx)
    (hm : main.Until ChecksBegin t es₁ m) :
    (m.pc = .epilogue ∧ m.game.loose = none) ∨
    (m.pc = .wallCheck .one ∧ (∃ es₂ c, main.Until FrameOver m es₂ c) ∧
      ∀ es₂ c, main.Until FrameOver m es₂ c →
        ((∃ p, c.pc = .epilogue ∧ c.game.loose = some p) ↔
          ∃ p, Plays m.game p ∧ AtFault p m.game c.game) ∧
        ∀ p, c.pc = .epilogue → c.game.loose = some p →
          Plays m.game p ∧ AtFault p m.game c.game) := by
  have hloose : t.game.loose = none := run_loose hrun (by simp [ht, stage])
  have hund : Undecided m := by
    refine hm.inv (I := Undecided) ⟨Or.inl (by rw [ht]; trivial), hloose⟩ ?_
    rintro s e s' ⟨hpc, hs⟩ hA hstep
    have hb : BeforeChecks s.pc := hpc.resolve_right fun h =>
      hA (h.imp_right fun h => Or.inr h)
    refine ⟨next_beforeChecks (step_next hstep) hb, ?_⟩
    rcases (step_leaves hstep).loose with hloose | ⟨hchecks, -⟩
    · exact hloose.trans hs
    · exact (not_checks_of_beforeChecks hb hchecks).elim
  obtain ⟨hpc | hpc | hpc, hnone⟩ := hund
  · exfalso
    rcases hm.2.1 with h | h | h <;> rw [h] at hpc <;> exact hpc
  · right
    have hrunm : main.run (initial arg ch2) (es ++ es₁) = some m := by
      rw [Machine.run_append, hrun]
      exact hm.1
    obtain ⟨mpc, g⟩ := m
    obtain rfl : mpc = .wallCheck .one := hpc
    refine ⟨rfl, ?_, ?_⟩
    · obtain ⟨es₂, h⟩ := leads_verdict.2 (rfl : verdict g = verdict g)
      exact ⟨es₂, _, h⟩
    · intro es₂ c hc
      obtain rfl : c = verdict g := leads_verdict.1 ⟨es₂, hc⟩
      rcases verdict_cases (run_moved hrunm rfl) with ⟨p, g', hv, hp, hfault⟩ | ⟨g', hv, hnone⟩
      · rw [hv]
        refine ⟨iff_of_true ⟨p, rfl, rfl⟩ ⟨p, hp, hfault⟩, fun q _ hq => ?_⟩
        obtain rfl : p = q := Option.some_inj.1 hq
        exact ⟨hp, hfault⟩
      · rw [hv]
        refine ⟨iff_of_false ?_ ?_, ?_⟩
        · rintro ⟨p, hpc, -⟩
          cases hpc
        · rintro ⟨p, hp, hfault⟩
          exact hnone p hp hfault
        · rintro p hpc
          cases hpc
  · exact Or.inl ⟨hpc, hnone⟩

end Run

def upFrame : List Input := List.replicate 12 { window := (8, 8), key := 36 }

/-- A snake that turns up in its first frame runs into the wall, and loses by its own fault. -/
theorem frame_verdict_wall :
    ∃ t m c, main.run (initial ['1'] 0) (gameInputs 1 (8, 8) ['3'] []) = some t ∧
      t.pc = .getmaxyx ∧ main.Until ChecksBegin t upFrame m ∧ main.Until FrameOver m [{}] c ∧
      c.game.loose = some .one ∧ AtFault .one m.game c.game := by
  have h : (main.run (initial ['1'] 0) (gameInputs 1 (8, 8) ['3'] [])).map (fun t => (t.pc,
      (main.run t upFrame).map fun m => (m.pc, wallCheck .one m.game),
      decide (∀ x ∈ main.trace t upFrame, ¬ ChecksBegin x.1))) =
      some (.getmaxyx, some (.wallCheck .one, true), true) := by decide +kernel
  obtain ⟨t, hrun, ht⟩ := Option.map_eq_some_iff.1 h
  obtain ⟨htpc, hm⟩ := Prod.mk_inj.1 ht
  obtain ⟨hm, htrace⟩ := Prod.mk_inj.1 hm
  obtain ⟨⟨mpc, g⟩, hrunm, hm⟩ := Option.map_eq_some_iff.1 hm
  obtain ⟨rfl, hwall⟩ := Prod.mk_inj.1 hm
  have hbegin : main.Until ChecksBegin t upFrame ⟨.wallCheck .one, g⟩ :=
    ⟨hrunm, Or.inl rfl, of_decide_eq_true htrace⟩
  have hstep : main.step ⟨.wallCheck .one, g⟩ {} = some (lose .one g) :=
    congrArg some (if_pos hwall)
  have hover : main.Until FrameOver ⟨.wallCheck .one, g⟩ [{}] (lose .one g) :=
    Machine.Until.cons (by simp [FrameOver]) hstep (Machine.until_nil (A := FrameOver) (Or.inr rfl))
  rcases frame_verdict hrun htpc hbegin with ⟨hpc, -⟩ | ⟨-, -, hverdict⟩
  · cases hpc
  · exact ⟨t, _, _, hrun, htpc, hbegin, hover, rfl, ((hverdict _ _ hover).2 .one rfl rfl).2⟩

end UsbJoystick.Snake
