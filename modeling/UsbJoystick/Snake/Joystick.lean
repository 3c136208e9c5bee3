import UsbJoystick.Snake.Verdict

/-!
What the game sends to the joystick.

`main` sends a command four times: twice `1` when it opens the pause menu, twice `0` when the menu
is left with `RESUME`, and twice `0` when the game is over. No other statement sends anything, and
which of them run is decided by the control flow graph alone (`sends`). So what has been sent by
the end of any run is a number of complete pauses, and then what belongs to the place where the
program is (`unanswered`).
-/

namespace UsbJoystick.Snake

open UsbJoystick.Lib

/-- The bytes that a step sends that goes from one program point to another. -/
def sends : Pc → Pc → List UInt8
  | .pause, .quitOpen => [49, 49]
  | .quitDisp _, .setDir _ => [48, 48]
  | .epilogue, _ => [48, 48]
  | _, _ => []

/-- The pause menu is open, or it has been left with `QUIT`. -/
def Paused (c : Config) : Prop :=
  match c.pc with
  | .quitOpen | .quitDisp _ => True
  | .epilogue => c.game.loose = none
  | _ => False

instance (c : Config) : Decidable (Paused c) := by
  unfold Paused
  split <;> infer_instance

/-- The commands `1` that no command `0` has followed yet, and those that the end of the game
sends. -/
def unanswered (c : Config) : List UInt8 :=
  if c.pc = .halt then (if c.game.loose = none then [49, 49] else []) ++ [48, 48]
  else if Paused c then [49, 49] else []

section Step

variable {c c' : Config} {e : Input}

lemma usbOut_initBonus (g : Game) : (initBonus g).usbOut = g.usbOut := by
  obtain ⟨b, hb⟩ := initBonus_eq g
  rw [hb]

lemma usbOut_steer (id : Player) (g : Game) : (steer id g).usbOut = g.usbOut := by
  rw [steer_eq]
  split_ifs
  · cases id <;> rfl
  · rfl

lemma usbOut_bonusCheck (id : Player) (g : Game) : (bonusCheck id g).usbOut = g.usbOut := by
  rcases bonusCheck_cases g id with ⟨-, hg⟩ | ⟨i, -, hg⟩ <;> rw [hg]
  cases id <;> rfl

/-- **What a step sends.** -/
theorem step_usbOut (h : step c e = some c') :
    c'.game.usbOut = c.game.usbOut ++ sends c.pc c'.pc := by
  obtain ⟨pc, g⟩ := c
  cases pc with
  | menuDisp k =>
    obtain rfl := Option.some_inj.1 h
    rcases menuTurn_cases g e k with ⟨r, hr⟩ | ⟨k', hr⟩ <;> rw [hr] <;>
      exact (List.append_nil _).symm
  | initBonus =>
    obtain rfl := Option.some_inj.1 h
    exact (usbOut_initBonus g).trans (List.append_nil _).symm
  | getch =>
    obtain rfl := Option.some_inj.1 h
    refine Eq.trans ?_ (List.append_nil _).symm
    simp only
    split_ifs <;> rfl
  | pause =>
    simp only [step] at h
    split_ifs at h <;> obtain rfl := Option.some_inj.1 h
    · exact List.append_assoc _ _ _
    · exact (List.append_nil _).symm
  | quitDisp k =>
    obtain rfl := Option.some_inj.1 h
    rcases quitTurn_cases g e k with hr | hr | ⟨k', hr⟩ <;> rw [hr]
    · exact List.append_assoc _ _ _
    · exact (List.append_nil _).symm
    · exact (List.append_nil _).symm
  | setDir id =>
    cases id <;> obtain rfl := Option.some_inj.1 h <;>
      exact (usbOut_steer _ g).trans (List.append_nil _).symm
  | bonusCreate =>
    obtain ⟨g', hg', rfl⟩ := Option.map_eq_some_iff.1 h
    refine Eq.trans ?_ (List.append_nil _).symm
    rcases bonusCreate_cases hg' with rfl | ⟨-, ⟨-, rfl⟩ | ⟨i, x, y, -, rfl⟩⟩ <;> rfl
  | bonusCheck id =>
    cases id <;> obtain rfl := Option.some_inj.1 h <;>
      exact (usbOut_bonusCheck _ g).trans (List.append_nil _).symm
  | wallCheck id | crashCheck id =>
    obtain rfl := Option.some_inj.1 h
    split_ifs <;> exact (List.append_nil _).symm
  | crashSnakeCheck id =>
    cases id <;> obtain rfl := Option.some_inj.1 h <;> split_ifs <;>
      exact (List.append_nil _).symm
  | initSnake id | scoreDisp id | snakeMove id | snakeDisp id =>
    cases id <;> obtain rfl := Option.some_inj.1 h <;> exact (List.append_nil _).symm
  | epilogue =>
    obtain rfl := Option.some_inj.1 h
    exact List.append_assoc _ _ _
  | halt => cases h
  | _ =>
    obtain rfl := Option.some_inj.1 h
    exact (List.append_nil _).symm

/-- A check that ends the game names the loser. -/
lemma loose_of_checks (h : step c e = some c') (hpc : Checks c.pc) (hpc' : c'.pc = .epilogue) :
    c'.game.loose ≠ none := by
  obtain ⟨pc, g⟩ := c
  cases pc with
  | wallCheck id | crashCheck id =>
    obtain rfl := Option.some_inj.1 h
    split_ifs at hpc' ⊢
    simp [lose]
  | crashSnakeCheck id =>
    cases id <;> obtain rfl := Option.some_inj.1 h <;> split_ifs at hpc' ⊢ <;>
      simp [lose]
  | _ => exact hpc.elim

/-! ### The commands of a run -/

/-- The program points at which no command is outstanding. -/
def Calm : Pc → Prop
  | .quitOpen | .quitDisp _ | .epilogue | .halt => False
  | _ => True

lemma unanswered_of_calm (h : Calm c.pc) : unanswered c = [] := by
  obtain ⟨pc, g⟩ := c
  cases pc <;> first | rfl | exact h.elim

lemma next_calm {n : ℕ} {pc pc' : Pc} (h : next n pc pc') (hpc : Calm pc) :
    Calm pc' ∧ sends pc pc' = [] ∨ pc = .pause ∧ pc' = .quitOpen ∨ Checks pc ∧ pc' = .epilogue := by
  unfold next at h
  split at h <;> grind [Calm, Checks, sends]

/-- **A step sends what is owed**: afterwards its commands stand where the program is, or they
complete a pause. -/
theorem step_unanswered (h : step c e = some c') (hloose : stage .one c.pc ≠ .ended →
    c.game.loose = none) : unanswered c ++ sends c.pc c'.pc = unanswered c' ∨
      unanswered c ++ sends c.pc c'.pc = [49, 49, 48, 48] ∧ unanswered c' = [] := by
  have hnext := step_next h
  by_cases hcalm : Calm c.pc
  · left
    rw [unanswered_of_calm hcalm, List.nil_append]
    rcases next_calm hnext hcalm with ⟨hcalm', hnil⟩ | ⟨hpc, hpc'⟩ | ⟨hchecks, hpc'⟩
    · rw [hnil, unanswered_of_calm hcalm']
    · simp [hpc, hpc', sends, unanswered, Paused]
    · have hsome := loose_of_checks h hchecks hpc'
      obtain ⟨pc, g⟩ := c
      cases pc <;> first | exact hchecks.elim | simp [hpc', sends, unanswered, Paused, hsome]
  · have hsame : c'.game.loose = c.game.loose := by
      rcases (step_leaves h).loose with hl | ⟨hchecks, -⟩
      · exact hl
      · obtain ⟨pc, g⟩ := c
        cases pc <;> first | exact hchecks.elim | exact absurd trivial hcalm
    obtain ⟨pc, g⟩ := c
    cases pc with
    | quitOpen =>
      left
      have hpc' : c'.pc = .quitDisp 0 := hnext
      simp [hpc', sends, unanswered, Paused]
    | quitDisp k =>
      rcases hnext with hpc' | hpc' | ⟨k', hpc'⟩
      · right
        simp [hpc', sends, unanswered, Paused]
      · -- the menu is left with `QUIT`
        left
        have hnone : g.loose = none := hloose (by simp [stage])
        simp [hpc', sends, unanswered, Paused, hsame, hnone]
      · left
        simp [hpc', sends, unanswered, Paused]
    | epilogue =>
      left
      have hpc' : c'.pc = .halt := hnext
      by_cases hnone : g.loose = none <;> simp [hpc', sends, unanswered, Paused, hsame, hnone]
    | halt => cases h
    | _ => exact absurd trivial hcalm

end Step

section Run

variable {arg : List Char} {ch2 : ℤ} {es : List Input} {c : Config}

/-- **The commands come in complete pauses.** What the game has sent by any time is a number of
pauses, each of them two commands `1` and two commands `0`; then two commands `1` if the pause menu
is open or has been left with `QUIT`; and at the end of the program two commands `0`. -/
theorem run_usbOut (hrun : main.run (initial arg ch2) es = some c) :
    ∃ n, c.game.usbOut = (List.replicate n [49, 49, 48, 48]).flatten ++ unanswered c := by
  refine Machine.run_induction (P := fun _ c => ∃ n, c.game.usbOut =
    (List.replicate n [49, 49, 48, 48]).flatten ++ unanswered c) ⟨0, rfl⟩ ?_ hrun
  intro es c e c' hrun ⟨n, hn⟩ hstep
  have hout := step_usbOut hstep
  rw [hn, List.append_assoc] at hout
  rcases step_unanswered hstep (run_loose hrun) with heq | ⟨heq, hnil⟩
  · exact ⟨n, by rw [hout, heq]⟩
  · refine ⟨n + 1, ?_⟩
    rw [hout, heq, hnil, List.replicate_succ', List.flatten_append]
    simp

end Run

end UsbJoystick.Snake
