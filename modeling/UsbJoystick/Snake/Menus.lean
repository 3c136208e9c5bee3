import UsbJoystick.Snake.Bonus

/-!
What the menus set.

Both menus of the joystick are rings of lines: `UP` and `DOWN` move the highlight by one line, past
the ends too, and the function key takes the line that it is on. So what a menu gives depends on
the keys only through their sum modulo the number of lines (`moveHighlight_eq`). A run begins with
the keys of the menu of the spawning rate and goes on with the line of the menu of the bonuses, and
nothing changes the two settings afterwards (`settings_are_those_of_the_menus`).
-/

namespace UsbJoystick.Snake

open UsbJoystick.Lib

/-! ### Rings of lines -/

/-- By how many lines a key moves the highlight. -/
def shift (choice : ℤ) : ℤ :=
  if choice = USBKEY_UP then -1 else if choice = USBKEY_DOWN then 1 else 0

def Input.shift (e : Input) : ℤ := Snake.shift e.key.toNat

/-- All keys together. -/
def shifts (es : List Input) : ℤ := (es.map Input.shift).sum

/-- The function key is pressed. -/
def Input.takes (e : Input) : Prop := (e.key.toNat : ℤ) = USBKEY_FCT

instance (e : Input) : Decidable e.takes := by unfold Input.takes; infer_instance

lemma moveHighlight_eq {n k : ℤ} (choice : ℤ) (h0 : 0 ≤ k) (hk : k < n) :
    moveHighlight n choice k = (k + shift choice) % n := by
  unfold moveHighlight shift
  by_cases hup : choice = USBKEY_UP
  · rw [if_pos hup, if_pos hup]
    split_ifs with hend
    · obtain rfl : k = 0 := by omega
      rw [zero_add, ← Int.add_emod_right, Int.emod_eq_of_lt] <;> omega
    · rw [Int.emod_eq_of_lt] <;> omega
  · rw [if_neg hup, if_neg hup]
    by_cases hdown : choice = USBKEY_DOWN
    · rw [if_pos hdown, if_pos hdown]
      split_ifs with hend
      · rw [hend, Int.emod_self]
      · rw [Int.emod_eq_of_lt] <;> omega
    · rw [if_neg hdown, if_neg hdown, add_zero, Int.emod_eq_of_lt h0 hk]

/-- The function key does not move the highlight. -/
lemma Input.shift_of_takes {e : Input} (h : e.takes) : e.shift = 0 := by
  have hkey : (e.key.toNat : ℤ) = 33 := h
  rw [Input.shift, hkey]
  rfl

lemma shifts_concat (es : List Input) (e : Input) : shifts (es ++ [e]) = shifts es + e.shift := by
  simp [shifts]

/-- **A menu is a ring**: keys before the function key move the highlight by their sum. -/
theorem moveHighlight_shifts {n : ℤ} (hn : 0 < n) (es : List Input) (e : Input) :
    moveHighlight n e.key.toNat (shifts es % n) = shifts (es ++ [e]) % n := by
  rw [moveHighlight_eq _ (Int.emod_nonneg _ hn.ne') (Int.emod_lt_of_pos _ hn), shifts_concat,
    Int.emod_add_emod]
  rfl

/-! ### The menu of the spawning rate and the menu of the bonuses -/

lemma menuTurn_of_not_takes {e : Input} (h : ¬ e.takes) (k : ℤ) (g : Game) :
    menuTurn k e g = ⟨.menuDisp (moveHighlight 4 e.key.toNat k), g⟩ := if_neg h

lemma menuTurn_of_takes {e : Input} (h : e.takes) (k : ℤ) (g : Game) :
    menuTurn k e g = ⟨.menu2Disp, { g with
      spawningRate := spawningRateOf (moveHighlight 4 e.key.toNat k) g.spawningRate }⟩ := if_pos h

/-- The four lines. -/
def rateOf (k : ℤ) : ℤ := spawningRateOf k 0

lemma spawningRateOf_shifts (es : List Input) (rate : ℤ) :
    spawningRateOf (shifts es % 4) rate = rateOf (shifts es % 4) := by
  have h0 := Int.emod_nonneg (shifts es) (show (4 : ℤ) ≠ 0 by decide)
  have h4 := Int.emod_lt_of_pos (shifts es) (show (0 : ℤ) < 4 by decide)
  unfold rateOf spawningRateOf
  split_ifs <;> omega

/-- The keys `browsed` move the highlight, and `taken` takes the line. -/
structure Rate (browsed : List Input) (taken : Input) (g : Game) : Prop where
  browsing : ∀ e ∈ browsed, ¬ e.takes
  takes : taken.takes
  rate : g.spawningRate = rateOf (shifts browsed % 4)

/-- What the inputs of a run say of the settings. -/
def SetBy (es : List Input) (c : Config) : Prop :=
  match c.pc with
  | .menuDisp k => (∀ e ∈ es, ¬ e.takes) ∧ k = shifts es % 4
  | .menu2Disp => ∃ browsed taken, es = browsed ++ [taken] ∧ Rate browsed taken c.game
  | _ => ∃ browsed taken typed rest, es = browsed ++ taken :: typed :: rest ∧
      Rate browsed taken c.game ∧ c.game.maxBonus = min (atoi typed.line) 100

/-- The points of `main` after the menus. -/
def Playing (pc : Pc) : Prop := (∀ k, pc ≠ .menuDisp k) ∧ pc ≠ .menu2Disp

section Settings

variable {es : List Input} {c c' : Config} {e : Input}

lemma setBy_playing (h : Playing c.pc) : SetBy es c ↔ ∃ browsed taken typed rest,
    es = browsed ++ taken :: typed :: rest ∧ Rate browsed taken c.game ∧
      c.game.maxBonus = min (atoi typed.line) 100 := by
  obtain ⟨pc, g⟩ := c
  cases pc with
  | menuDisp k => exact absurd rfl (h.1 k)
  | menu2Disp => exact absurd rfl h.2
  | _ => exact Iff.rfl

lemma maxBonus_menu2Disp (e : Input) (g : Game) :
    (menu2Disp e g).maxBonus = min (atoi e.line) 100 := by
  simp only [menu2Disp]
  split_ifs <;> omega

/-- After the menus the settings stay as they are. -/
lemma step_settings (h : Playing c.pc) (hstep : step c e = some c') :
    Playing c'.pc ∧ c'.game.spawningRate = c.game.spawningRate ∧
      c'.game.maxBonus = c.game.maxBonus := by
  have hnext := step_next hstep
  refine ⟨?_, (step_keeps hstep).rate h.1, ?_⟩
  · unfold next at hnext
    split at hnext <;> grind [Playing]
  · cases step_books hstep with
    | menu pc => exact absurd pc h.2
    | init pc game =>
      obtain ⟨b, hb⟩ := initBonus_eq c.game
      rw [game, hb]
    | create pc game =>
      rcases bonusCreate_cases game with hg | ⟨-, ⟨-, hg⟩ | ⟨i, x, y, -, hg⟩⟩ <;> rw [hg]
      rfl
    | check p pc game =>
      rw [game]
      rcases bonusCheck_cases c.game p with ⟨-, hg⟩ | ⟨i, -, hg⟩
      · rw [hg]
      · rw [hg]
        cases p <;> rfl
    | other create check same =>
      simp only [Game.tally, Prod.mk.injEq] at same
      exact same.1

theorem SetBy.step (h : SetBy es c) (hstep : step c e = some c') : SetBy (es ++ [e]) c' := by
  by_cases hplaying : Playing c.pc
  · obtain ⟨browsed, taken, typed, rest, rfl, hrate, hmax⟩ := (setBy_playing hplaying).1 h
    obtain ⟨hplaying', hr, hm⟩ := step_settings hplaying hstep
    refine (setBy_playing hplaying').2 ⟨browsed, taken, typed, rest ++ [e], by simp, ?_, ?_⟩
    · exact ⟨hrate.browsing, hrate.takes, hr.trans hrate.rate⟩
    · exact hm.trans hmax
  obtain ⟨pc, g⟩ := c
  cases pc with
  | menuDisp k =>
    obtain ⟨hbrowsing, rfl⟩ := h
    obtain rfl := Option.some_inj.1 hstep
    have hmove := moveHighlight_shifts (show (0 : ℤ) < 4 by decide) es e
    by_cases htakes : e.takes
    · rw [menuTurn_of_takes htakes]
      refine ⟨es, e, rfl, hbrowsing, htakes, ?_⟩
      show spawningRateOf (moveHighlight 4 e.key.toNat (shifts es % 4)) g.spawningRate = _
      rw [hmove, shifts_concat, Input.shift_of_takes htakes, add_zero, spawningRateOf_shifts]
    · rw [menuTurn_of_not_takes htakes]
      refine ⟨?_, hmove⟩
      intro e' he'
      rcases List.mem_append.1 he' with he' | he'
      · exact hbrowsing e' he'
      · rwa [List.mem_singleton.1 he']
  | menu2Disp =>
    obtain ⟨browsed, taken, rfl, hrate⟩ := h
    obtain rfl := Option.some_inj.1 hstep
    refine ⟨browsed, taken, e, [], by simp, ⟨hrate.browsing, hrate.takes, hrate.rate⟩, ?_⟩
    exact maxBonus_menu2Disp e g
  | _ => exact absurd ⟨by simp, by simp⟩ hplaying

end Settings

/-! ### Numbers -/

lemma isSpace_of_isDigit {c : Char} (h : c.isDigit = true) : isSpace c = false := by
  have hdigit : 48 ≤ c.toNat := (Char.isDigit_iff_toNat.1 h).1
  rw [isSpace, decide_eq_false_iff_not]
  rintro (rfl | hc)
  · exact absurd hdigit (by decide)
  · omega

/-- A list that begins with a digit has no sign. -/
lemma atoi_of_digit {c : Char} {cs : List Char} (h : c.isDigit = true) :
    atoi (c :: cs) = (((c :: cs).takeWhile Char.isDigit).foldl
      (fun n c => 10 * n + (c.toNat - '0'.toNat)) 0 : ℕ) := by
  have hspace : (c :: cs).dropWhile isSpace = c :: cs :=
    List.dropWhile_cons_of_neg (by simp [isSpace_of_isDigit h])
  unfold atoi
  rw [hspace]
  split
  · next heq =>
    obtain ⟨rfl, -⟩ := List.cons.inj heq
    exact absurd h (by decide)
  · next heq =>
    obtain ⟨rfl, -⟩ := List.cons.inj heq
    exact absurd h (by decide)
  · rfl

/-- **`atoi` reads a number** that is written out in decimal, after blanks and up to the first
character that is not a digit. -/
theorem atoi_repr {blanks rest : List Char} (n : ℕ) (hblanks : ∀ c ∈ blanks, isSpace c = true)
    (hrest : ∀ c ∈ rest.head?, c.isDigit = false) :
    atoi (blanks ++ n.repr.toList ++ rest) = n := by
  have hrepr : n.repr.toList = Nat.toDigits 10 n := by
    rw [Nat.repr_eq_ofList_toDigits, String.toList_ofList]
  have hdigits : ∀ c ∈ Nat.toDigits 10 n, c.isDigit = true :=
    fun c hc => Nat.isDigit_of_mem_toDigits (by decide) (by decide) hc
  obtain ⟨d, ds, hd⟩ := List.exists_cons_of_ne_nil (Nat.toDigits_ne_nil (n := n) (b := 10))
  have hskip : atoi (blanks ++ Nat.toDigits 10 n ++ rest) = atoi (Nat.toDigits 10 n ++ rest) := by
    unfold atoi
    rw [List.append_assoc, List.dropWhile_append_of_pos hblanks]
  have hstop : rest.takeWhile Char.isDigit = [] := by
    cases rest with
    | nil => rfl
    | cons c cs => exact List.takeWhile_cons_of_neg (by simp [hrest c rfl])
  have hread : atoi (Nat.toDigits 10 n ++ rest) =
      ((Nat.toDigits 10 n ++ rest).takeWhile Char.isDigit).foldl
        (fun n c => 10 * n + (c.toNat - '0'.toNat)) 0 := by
    rw [hd]
    exact atoi_of_digit (hdigits d (by rw [hd]; exact List.mem_cons_self))
  rw [hrepr, hskip, hread, List.takeWhile_append_of_pos hdigits, hstop, List.append_nil]
  exact congrArg Nat.cast (Nat.ofDigitChars_toDigits (b := 10) (n := n) (by decide) (by decide))

/-- The digits of a list are a number with no more digits. -/
lemma foldl_digits_lt (s : List Char) :
    (s.takeWhile Char.isDigit).foldl (fun n c => 10 * n + (c.toNat - '0'.toNat)) 0 <
      10 ^ s.length := by
  -- the accumulator has as many digits as characters have been read
  suffices h : ∀ (ds : List Char) (n k : ℕ), (∀ c ∈ ds, c.isDigit = true) → n < 10 ^ k →
      ds.foldl (fun n c => 10 * n + (c.toNat - '0'.toNat)) n < 10 ^ (k + ds.length) by
    have hlen : (s.takeWhile Char.isDigit).length ≤ s.length :=
      (List.takeWhile_prefix _).length_le
    refine (h _ 0 0 (List.all_eq_true.1 List.all_takeWhile) (by simp)).trans_le ?_
    exact Nat.pow_le_pow_right (by decide) (by omega)
  intro ds
  induction ds with
  | nil => exact fun n k _ h => h
  | cons c ds ih =>
    intro n k hdigits hn
    have hc : c.toNat - '0'.toNat ≤ 9 := by
      have hrange := Char.isDigit_iff_toNat.1 (hdigits c List.mem_cons_self)
      have hbounds : '0'.toNat = 48 ∧ '9'.toNat = 57 := ⟨rfl, rfl⟩
      omega
    have hn' : 10 * n + (c.toNat - '0'.toNat) < 10 ^ (k + 1) := by
      rw [pow_succ]
      omega
    rw [List.foldl_cons, List.length_cons, ← add_assoc, add_right_comm]
    exact ih _ (k + 1) (fun c hc => hdigits c (List.mem_cons_of_mem _ hc)) hn'

/-- **The range of `atoi`.** -/
theorem abs_atoi_lt (s : List Char) : |atoi s| < 10 ^ s.length := by
  have hdrop : (s.dropWhile isSpace).length ≤ s.length := (List.dropWhile_suffix _).length_le
  have hdigits : ∀ t : List Char, t.length ≤ s.length →
      (((t.takeWhile Char.isDigit).foldl
        (fun n c => 10 * n + (c.toNat - '0'.toNat)) 0 : ℕ) : ℤ) < 10 ^ s.length := by
    intro t ht
    exact_mod_cast (foldl_digits_lt t).trans_le (Nat.pow_le_pow_right (by decide) ht)
  unfold atoi
  split
  · next t heq =>
    rw [abs_neg, Nat.abs_cast]
    exact hdigits t (by rw [heq, List.length_cons] at hdrop; omega)
  · next t heq =>
    rw [Nat.abs_cast]
    exact hdigits t (by rw [heq, List.length_cons] at hdrop; omega)
  · rw [Nat.abs_cast]
    exact hdigits _ hdrop

/-! ### Every run -/

section Run

variable {arg : List Char} {ch2 : ℤ} {es : List Input} {c : Config}

/-- **The settings of a game are those of the menus.** Every run that has left the menus begins with
keys that are not the function key, then the function key, then the line of the second menu. The
spawning rate is that of the line of the first menu that the keys lead to, counted around the ring.
If the line of the second menu has at most 7 characters, so that `amount` has room for it, its
number is in the range of an `int`, and the number of bonuses is that one, or 100 if it is
greater. -/
theorem settings_are_those_of_the_menus (hrun : main.run (initial arg ch2) es = some c)
    (hpc : Playing c.pc) :
    ∃ browsed taken typed rest, es = browsed ++ taken :: typed :: rest ∧
      (∀ e ∈ browsed, ¬ e.takes) ∧ taken.takes ∧
      c.game.spawningRate = rateOf (shifts browsed % 4) ∧
      (typed.line.length ≤ 7 →
        |atoi typed.line| < 2 ^ 31 ∧ c.game.maxBonus = min (atoi typed.line) 100 ∧
        ∀ blanks (n : ℕ) rest', typed.line = blanks ++ n.repr.toList ++ rest' →
          (∀ c ∈ blanks, isSpace c = true) → (∀ c ∈ rest'.head?, c.isDigit = false) →
          c.game.maxBonus = min (n : ℤ) 100) := by
  have hset : SetBy es c := by
    refine Machine.run_induction (P := SetBy) ?_ ?_ hrun
    · exact ⟨List.forall_mem_nil _, rfl⟩
    · exact fun es c e c' _ h hstep => h.step hstep
  obtain ⟨browsed, taken, typed, rest, hes, hrate, hmax⟩ := (setBy_playing hpc).1 hset
  refine ⟨browsed, taken, typed, rest, hes, hrate.browsing, hrate.takes, hrate.rate, ?_⟩
  intro hlen
  refine ⟨?_, hmax, ?_⟩
  · calc |atoi typed.line| < 10 ^ typed.line.length := abs_atoi_lt _
      _ ≤ 10 ^ 7 := pow_le_pow_right₀ (by decide) hlen
      _ < 2 ^ 31 := by decide
  · intro blanks n rest' hline hblanks hrest
    rw [hmax, hline, atoi_repr n hblanks hrest]

theorem settings_are_those_of_the_menus_square :
    ∃ c, main.run (initial ['1'] 0) squareRun = some c ∧
      c.game.spawningRate = 120 ∧ c.game.maxBonus = 3 ∧
      ∃ browsed taken typed rest, squareRun = browsed ++ taken :: typed :: rest ∧
        typed.line.length ≤ 7 ∧
        c.game.spawningRate = rateOf (shifts browsed % 4) ∧
        c.game.maxBonus = min (atoi typed.line) 100 := by
  have h : (main.run (initial ['1'] 0) squareRun).map
      (fun c => (c.pc, c.game.spawningRate, c.game.maxBonus)) = some (.refresh, 120, 3) := by
    decide +kernel
  obtain ⟨c, hc, hend⟩ := Option.map_eq_some_iff.1 h
  obtain ⟨hpc, hr, hm⟩ : c.pc = .refresh ∧ c.game.spawningRate = 120 ∧ c.game.maxBonus = 3 := by
    simpa using hend
  have hplaying : Playing c.pc := by
    rw [hpc]
    exact ⟨by simp, by simp⟩
  obtain ⟨browsed, taken, typed, rest, hes, -, -, hrate, hmax⟩ :=
    settings_are_those_of_the_menus hc hplaying
  have hlines : ∀ e ∈ squareRun, e.line.length ≤ 7 := by decide +kernel
  have hlen : typed.line.length ≤ 7 := hlines typed (by rw [hes]; simp)
  exact ⟨c, hc, hr, hm, browsed, taken, typed, rest, hes, hlen, hrate, (hmax hlen).2.1⟩

end Run

/-! ### The pause menu -/

lemma quitTurn_of_not_takes {e : Input} (h : ¬ e.takes) (k : ℤ) (g : Game) :
    quitTurn k e g = ⟨.quitDisp (moveHighlight 2 e.key.toNat k), g⟩ := if_neg h

/-- Browsing the pause menu. -/
lemma run_quitDisp (g : Game) {es : List Input} (hes : ∀ e ∈ es, ¬ e.takes) :
    main.run ⟨.quitDisp 0, g⟩ es = some ⟨.quitDisp (shifts es % 2), g⟩ := by
  induction es using List.reverseRecOn with
  | nil => rfl
  | append_singleton es e ih =>
    obtain ⟨hes, he⟩ := List.forall_mem_append.1 hes
    have hstep : main.step ⟨.quitDisp (shifts es % 2), g⟩ e =
      some (quitTurn (shifts es % 2) e g) := rfl
    rw [Machine.run_snoc, ih hes, Option.bind_some, hstep,
      quitTurn_of_not_takes (he e List.mem_cons_self), moveHighlight_shifts (by decide)]

lemma quitTurn_of_takes {e : Input} (h : e.takes) (k : ℤ) (g : Game) :
    quitTurn k e g = if moveHighlight 2 e.key.toNat k = 0 then unpause (usbSend 48 (usbSend 48 g))
      else if moveHighlight 2 e.key.toNat k = 1 then ⟨.epilogue, g⟩
      else ⟨.quitDisp (moveHighlight 2 e.key.toNat k), g⟩ := if_pos h

/-- `UP` or `DOWN` is pressed. -/
def Input.moves (e : Input) : Bool := decide (e.shift ≠ 0)

/-- These move the highlight of the pause menu to the other line. -/
lemma shifts_mod_two (es : List Input) : shifts es % 2 = (es.countP Input.moves : ℤ) % 2 := by
  induction es using List.reverseRecOn with
  | nil => rfl
  | append_singleton es e ih =>
    have hshift : e.shift = -1 ∨ e.shift = 1 ∨ e.shift = 0 := by
      unfold Input.shift shift
      split_ifs <;> simp
    rw [shifts_concat, List.countP_append, List.countP_singleton]
    rcases hshift with h | h | h <;> simp only [Input.moves, h] <;> simp <;> omega

/-- Where the pause menu leads to. -/
lemma run_pauseMenu (g : Game) (e₀ : Input) (es : List Input) (taken : Input)
    (hes : ∀ e ∈ es, ¬ e.takes) (htaken : taken.takes) :
    main.run ⟨.quitOpen, g⟩ (e₀ :: (es ++ [taken])) = some
      (if Even (es.countP Input.moves)
        then unpause (usbSend 48 (usbSend 48 (getmaxyx e₀ g)))
        else ⟨.epilogue, getmaxyx e₀ g⟩) := by
  have hopen : main.run ⟨.quitOpen, g⟩ (e₀ :: (es ++ [taken])) =
    main.run ⟨.quitDisp 0, getmaxyx e₀ g⟩ (es ++ [taken]) := rfl
  have hline : moveHighlight 2 taken.key.toNat (shifts es % 2) = shifts es % 2 := by
    rw [moveHighlight_shifts (by decide), shifts_concat, Input.shift_of_takes htaken, add_zero]
  have hstep : main.step ⟨.quitDisp (shifts es % 2), getmaxyx e₀ g⟩ taken =
    some (quitTurn (shifts es % 2) taken (getmaxyx e₀ g)) := rfl
  rw [hopen, Machine.run_snoc, run_quitDisp _ hes, Option.bind_some, hstep,
    quitTurn_of_takes htaken, hline, shifts_mod_two]
  generalize es.countP Input.moves = n
  by_cases heven : Even n
  · obtain ⟨m, rfl⟩ := heven
    rw [if_pos (by push_cast; omega), if_pos ⟨m, rfl⟩]
  · have hodd : n % 2 = 1 := Nat.not_even_iff.1 heven
    rw [if_neg (by omega), if_pos (by omega), if_neg heven]

/-- **The pause menu** lets the game go on if the number of `UP` and `DOWN` before the function key
is even, and otherwise the program ends with the next step. In both cases two commands `0` have been
sent by then that switch the LED off: those after the menu, or those at the end of `main`. -/
theorem pause_menu_resumes_iff_even (g : Game) (e₀ : Input) (es : List Input) (taken : Input)
    (hes : ∀ e ∈ es, ¬ e.takes) (htaken : taken.takes) :
    (Even (es.countP Input.moves) → main.run ⟨.quitOpen, g⟩ (e₀ :: (es ++ [taken])) =
      some (unpause (usbSend 48 (usbSend 48 (getmaxyx e₀ g))))) ∧
    (¬ Even (es.countP Input.moves) → ∀ e, main.run ⟨.quitOpen, g⟩ (e₀ :: (es ++ [taken]) ++ [e]) =
      some ⟨.halt, usbSend 48 (usbSend 48 (getmaxyx e₀ g))⟩) := by
  have hmenu := run_pauseMenu g e₀ es taken hes htaken
  constructor
  · intro heven
    rw [hmenu, if_pos heven]
  · intro hodd e
    rw [Machine.run_snoc, hmenu, if_neg hodd]
    rfl

/-- The function key alone, and the function key after `DOWN`. -/
theorem pause_menu_resumes_iff_even_quit :
    main.run ⟨.quitOpen, (initial ['1'] 0).game⟩ [{}, { key := 33 }] =
      some (unpause (usbSend 48 (usbSend 48 (getmaxyx {} (initial ['1'] 0).game)))) ∧
    main.run ⟨.quitOpen, (initial ['1'] 0).game⟩ [{}, { key := 40 }, { key := 33 }, {}] =
      some ⟨.halt, usbSend 48 (usbSend 48 (getmaxyx {} (initial ['1'] 0).game))⟩ :=
  ⟨(pause_menu_resumes_iff_even (initial ['1'] 0).game {} [] { key := 33 } (by simp)
      (by decide)).1 (by decide),
    (pause_menu_resumes_iff_even (initial ['1'] 0).game {} [{ key := 40 }] { key := 33 }
      (List.forall_mem_singleton.2 (by decide)) (by decide)).2 (by decide) {}⟩

end UsbJoystick.Snake
