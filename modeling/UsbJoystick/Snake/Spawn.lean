import UsbJoystick.Snake.Bonus

/-!
Where `bonus_create` puts a bonus, and when it finds a place for it.

The counter `nb_bonus` can be wrong, but only in one direction: it never counts more slots than
are full (`run_undercounted`). A call that fills no slot, because there is none, counts one up to
at most the size of the table; a meal from an empty slot counts one down. So a free slot is always
enough for a bonus to be stored.

A slot that is searched before another and has its position hides it from `bonus_check`, whether
it is full or not. A bonus that is stored on the cell of a full slot is the only way to come to
that (`run_spread`), since `bonus_create` fills the first free slot.

The margins that `bonus_create` keeps from the edges of the window are larger than those of
`wall_check`. In a window with no room for them its remainders are by zero or by -1
(`spawnsInside_iff`).
-/

namespace UsbJoystick.Snake

open UsbJoystick.Lib

/-! ### Properties of the table

What holds of a fresh table and depends on the table alone is kept by a step if it is kept by
`bonus_create` and by `bonus_check`. -/

theorem table_step {I : Game → Prop} {c c' : Config} {e : Input} (hsound : Sound c)
    (fresh : ∀ g, Fresh g → I g)
    (congr : ∀ g g', g'.maxBonus = g.maxBonus → g'.nbBonus = g.nbBonus →
      g'.bonusList = g.bonusList → I g → I g')
    (create : ∀ g', c.pc = .bonusCreate → bonusCreate e c.game = some g' → I g')
    (check : ∀ p, I (bonusCheck p c.game)) (h : I c.game) (hstep : step c e = some c') :
    I c'.game := by
  cases step_books hstep with
  | menu pc game =>
    rw [game]
    exact fresh _ (fresh_menu2Disp (hsound.2 (by rw [pc]; trivial)) e)
  | init pc game after =>
    rw [game]
    exact fresh _ (fresh_initBonus (hsound.2 (by rw [pc]; trivial)))
  | create pc game after => exact create _ pc game
  | check p pc game after =>
    rw [game]
    exact check p
  | other _ _ same _ =>
    simp only [Game.tally, Prod.mk.injEq] at same
    exact congr _ _ same.1 same.2.1 same.2.2.1 h

section Calls

variable {g : Game} {p : Player} {i : ℕ}

lemma exists_freeSlot (hi : i ∈ g.slots) (hempty : (g.slot i).activ = false) :
    ∃ j, freeSlot g = some j :=
  Option.isSome_iff_exists.1 (List.find?_isSome.2 ⟨i, hi, by simp [hempty]⟩)

/-- The search of `bonus_create` finds the first free slot. -/
lemma freeSlot_first (h : freeSlot g = some i) : ∀ j < i, (g.slot j).activ = true := by
  obtain ⟨-, -, hfirst⟩ := List.find?_range_eq_some.1 h
  intro j hj
  simpa using hfirst j hj

lemma slots_bonusCheck (g : Game) (p : Player) : (bonusCheck p g).slots = g.slots := by
  rcases bonusCheck_cases g p with ⟨-, hg⟩ | ⟨i, -, hg⟩
  · rw [hg]
  · rw [hg]
    cases p <;> rfl

/-- A meal empties the slot it comes from and leaves the table alone otherwise. -/
lemma slot_bonusCheck (hi : hitSlot p g = some i) (j : ℕ) :
    (bonusCheck p g).slot j = (g.setSlot i { g.slot i with activ := false }).slot j := by
  simp only [bonusCheck, hi]
  cases p <;> rfl

end Calls

/-! ### The counter never counts too much -/

/-- `nb_bonus` is at most the number of full slots. -/
def Undercounted (g : Game) : Prop := g.nbBonus ≤ (activeSlots g).card

lemma Fresh.undercounted {g : Game} (h : Fresh g) : Undercounted g := le_of_eq h.accounted

section Undercounted

variable {c c' : Config} {e : Input}

lemma undercounted_bonusCreate {g g' : Game} (h100 : ∀ i ∈ g.slots, i < MAX_BONUS)
    (hcount : Undercounted g) (h : bonusCreate e g = some g') : Undercounted g' := by
  unfold Undercounted at *
  obtain ⟨-, ⟨hnb, hact⟩ | ⟨hlt, hnb, ⟨hfree, hact⟩ | ⟨i, hi, hact⟩⟩⟩ := bonusCreate_table h100 h
  · rwa [hnb, hact]
  · -- all slots are full, and the guard has passed
    have hfull : ¬ (activeSlots g).card < g.maxBonus.toNat := by
      intro hlt
      obtain ⟨i, hi⟩ := freeSlot_isSome g hlt
      cases hi.symm.trans hfree
    rw [hnb, hact]
    omega
  · rw [hnb, hact, Finset.card_insert_of_notMem hi]
    push_cast
    omega

/-- A meal counts one down, and empties one slot at most. -/
lemma undercounted_bonusCheck {g : Game} {p : Player} (h100 : ∀ i ∈ g.slots, i < MAX_BONUS)
    (hcount : Undercounted g) : Undercounted (bonusCheck p g) := by
  rcases hhit : hitSlot p g with _ | i
  · have hg : bonusCheck p g = g := by rw [bonusCheck, hhit]
    rwa [hg]
  · obtain ⟨-, hnb, hact⟩ := bonusCheck_table h100 hhit
    have hcard := Finset.pred_card_le_card_erase (s := activeSlots g) (a := i)
    unfold Undercounted at *
    rw [hnb, hact]
    omega

/-- **One step keeps the counter below the number of full slots.** -/
theorem Undercounted.step (hsound : Sound c) (h : Undercounted c.game)
    (hstep : step c e = some c') : Undercounted c'.game := by
  have h100 := hsound.lt_MAX_BONUS
  refine table_step hsound (fun _ => Fresh.undercounted) ?_
    (fun _ _ => undercounted_bonusCreate h100 h) (fun _ => undercounted_bonusCheck h100 h) h hstep
  intro g g' hmax hnb hlist hcount
  unfold Undercounted activeSlots Game.slot at *
  rwa [hmax, hnb, hlist]

theorem run_undercounted {arg : List Char} {ch2 : ℤ} {es : List Input}
    (hrun : main.run (initial arg ch2) es = some c) : Undercounted c.game := by
  refine Machine.run_induction (s := c) (P := fun _ c => Undercounted c.game) ?_ ?_ hrun
  · have h0 : (initial arg ch2).game.nbBonus = 0 := rfl
    rw [Undercounted, h0]
    exact Int.natCast_nonneg _
  · intro es c e c' hrun h hstep
    exact h.step (run_sound hrun) hstep

end Undercounted

/-! ### A free slot is enough -/

/-- The indices at which a loop over the table looks at it, if it breaks at the first slot that
meets `stop`. -/
def scanned (g : Game) (stop : ℕ → Bool) : List ℕ := g.slots.take (g.slots.findIdx stop + 1)

/-- The draw and the counter let `bonus_create` add a bonus. -/
def Draws (e : Input) (g : Game) : Prop :=
  cRem e.rand.1 g.spawningRate = some 1 ∧ g.nbBonus < g.maxBonus

instance (e : Input) (g : Game) : Decidable (Draws e g) := by unfold Draws; infer_instance

/-- The indices that a step uses on `bonus_list`. -/
def tableIndices (c : Config) (e : Input) : List ℕ :=
  match c.pc with
  | .initBonus | .bonusDisp => c.game.slots
  | .bonusCreate =>
    if Draws e c.game then scanned c.game fun i => !(c.game.slot i).activ else []
  | .bonusCheck p => scanned c.game fun i => onHead p c.game i
  | _ => []

lemma tableIndices_subset (c : Config) (e : Input) : tableIndices c e ⊆ c.game.slots := by
  unfold tableIndices
  split
  · exact List.Subset.refl _
  · exact List.Subset.refl _
  · split_ifs
    · exact List.take_subset _ _
    · exact List.nil_subset _
  · exact List.take_subset _ _
  · exact List.nil_subset _

section Draws

variable {g g' : Game} {c : Config} {e : Input} {i : ℕ}

/-- A call that is to add a bonus traps in a window of 4 columns or of 6 rows, and in no other. -/
lemma bonusCreate_isSome_iff (h : Draws e g) :
    (∃ g', bonusCreate e g = some g') ↔ g.maxX ≠ 4 ∧ g.maxY ≠ 6 := by
  obtain ⟨hadd, hlt⟩ := h
  constructor
  · rintro ⟨g', hg'⟩
    obtain ⟨add, hadd', hg'⟩ := Option.bind_eq_some_iff.1 hg'
    obtain rfl : 1 = add := Option.some_inj.1 (hadd.symm.trans hadd')
    rw [if_pos ⟨rfl, hlt⟩] at hg'
    obtain ⟨x, hx, hg'⟩ := Option.bind_eq_some_iff.1 hg'
    obtain ⟨y, hy, -⟩ := Option.bind_eq_some_iff.1 hg'
    constructor <;> intro h0
    · simp [cRem, h0] at hx
    · simp [cRem, h0] at hy
  · rintro ⟨hX, hY⟩
    have hx : ∃ x, cRem e.rand.2.1 (g.maxX - 4) = some x := ⟨_, if_neg (by omega)⟩
    have hy : ∃ y, cRem e.rand.2.2 (g.maxY - 6) = some y := ⟨_, if_neg (by omega)⟩
    obtain ⟨x, hx⟩ := hx
    obtain ⟨y, hy⟩ := hy
    refine Option.isSome_iff_exists.1 ?_
    simp only [bonusCreate, hadd, hx, hy, Option.bind_eq_bind, Option.bind_some]
    split_ifs <;> rfl

lemma spawningRate_ne_zero (h : bonusCreate e g = some g') : g.spawningRate ≠ 0 := by
  intro h0
  simp [bonusCreate, cRem, h0] at h

lemma bonusCreate_of_not_draws (hrate : g.spawningRate ≠ 0) (h : ¬ Draws e g) :
    bonusCreate e g = some g := by
  have hadd : cRem e.rand.1 g.spawningRate = some (Int.tmod e.rand.1 g.spawningRate) :=
    if_neg hrate
  rw [Draws, hadd, Option.some_inj] at h
  simp only [bonusCreate, hadd, Option.bind_eq_bind, Option.bind_some, if_neg h]
  rfl

/-- What is stored goes to the first free slot. -/
lemma mem_stored (h100 : ∀ i ∈ c.game.slots, i < MAX_BONUS) (hpc : c.pc = .bonusCreate)
    (hg' : bonusCreate e c.game = some g') :
    i ∈ stored c e ↔ Draws e c.game ∧ freeSlot c.game = some i := by
  have hmem : i ∈ stored c e ↔
      i ∈ c.game.slots ∧ (c.game.slot i).activ = false ∧ (g'.slot i).activ = true := by
    rw [stored, if_pos hpc, hg']
    simp
  rw [hmem]
  constructor
  · rintro ⟨hi, hempty, hfull⟩
    have hdraws : Draws e c.game := by
      by_contra h
      obtain rfl := Option.some_inj.1
        ((bonusCreate_of_not_draws (spawningRate_ne_zero hg') h).symm.trans hg')
      simp [hempty] at hfull
    -- there is a free slot, and no other one is filled
    obtain ⟨j, hfree⟩ := exists_freeSlot hi hempty
    obtain ⟨x, y, -, -, rfl⟩ := bonusCreate_stores hg' hdraws.1 hdraws.2 hfree
    refine ⟨hdraws, ?_⟩
    by_cases hij : i = j
    · rw [hij, hfree]
    · have hslot : (c.game.setSlot j ⟨2 + x, 3 + y, true⟩).slot i = c.game.slot i :=
        slot_setSlot_ne _ _ hij
      have hfull : ((c.game.setSlot j ⟨2 + x, 3 + y, true⟩).slot i).activ = true := hfull
      simp [hslot, hempty] at hfull
  · rintro ⟨⟨hadd, hlt⟩, hfree⟩
    obtain ⟨hi, hempty⟩ := freeSlot_eq_some _ hfree
    obtain ⟨x, y, -, -, rfl⟩ := bonusCreate_stores hg' hadd hlt hfree
    exact ⟨hi, hempty, congrArg Bonus.activ (slot_setSlot_self _ _ (h100 i hi))⟩

end Draws

/-! ### The slots in use

`tableIndices` leaves none out: with another table that agrees on these slots a call does the same,
apart from the table itself, and it writes to no other slot. -/

/-- The same game with another table. -/
def withTable (v : Vector Bonus MAX_BONUS) (g : Game) : Game := { g with bonusList := v }

section Table

variable {v : Vector Bonus MAX_BONUS} {g : Game} {c c' : Config} {e : Input} {p : Player} {i : ℕ}

/-- A search looks no further than to its first hit. -/
lemma find?_congr_scanned {stop stop' : ℕ → Bool}
    (h : ∀ i ∈ scanned g stop, stop' i = stop i) : g.slots.find? stop' = g.slots.find? stop := by
  unfold scanned at h
  generalize g.slots = l at h ⊢
  induction l with
  | nil => rfl
  | cons i l ih =>
    have hi : stop' i = stop i := h i (by simp)
    simp only [List.find?_cons, hi]
    cases hstop : stop i with
    | true => rfl
    | false =>
      refine ih fun j hj => h j ?_
      rw [List.findIdx_cons, hstop]
      exact List.mem_cons_of_mem _ hj

/-- **`bonus_create` reads no other slot.** -/
theorem bonusCreate_withTable (w : Vector Bonus MAX_BONUS)
    (h : ∀ i ∈ tableIndices ⟨.bonusCreate, g⟩ e, (withTable v g).slot i = g.slot i) :
    (bonusCreate e (withTable v g)).map (withTable w) = (bonusCreate e g).map (withTable w) := by
  have hfree : Draws e g → freeSlot (withTable v g) = freeSlot g := by
    intro hdraws
    refine find?_congr_scanned (g := g) fun i hi => ?_
    have hslot := h i (by simpa only [tableIndices, if_pos hdraws] using hi)
    rw [hslot]
  unfold bonusCreate
  change ((cRem e.rand.1 g.spawningRate).bind _).map _ = _
  cases hadd : cRem e.rand.1 g.spawningRate with
  | none => rfl
  | some add =>
    simp only [Option.bind_eq_bind, Option.bind_some]
    change Option.map _ (ite (add = 1 ∧ g.nbBonus < g.maxBonus) _ _) = _
    by_cases hguard : add = 1 ∧ g.nbBonus < g.maxBonus
    · rw [if_pos hguard, if_pos hguard]
      obtain ⟨rfl, hlt⟩ := hguard
      rw [hfree ⟨hadd, hlt⟩]
      change Option.map _ ((cRem e.rand.2.1 (g.maxX - 4)).bind _) = _
      cases cRem e.rand.2.1 (g.maxX - 4) with
      | none => rfl
      | some x =>
        change Option.map _ ((cRem e.rand.2.2 (g.maxY - 6)).bind _) = _
        simp only [Option.bind_some]
        cases cRem e.rand.2.2 (g.maxY - 6) with
        | none => rfl
        | some y => cases freeSlot g <;> rfl
    · rw [if_neg hguard, if_neg hguard]
      rfl

/-- **`bonus_check` reads no other slot.** -/
theorem bonusCheck_withTable (w : Vector Bonus MAX_BONUS)
    (h : ∀ i ∈ tableIndices ⟨.bonusCheck p, g⟩ e, (withTable v g).slot i = g.slot i) :
    withTable w (bonusCheck p (withTable v g)) = withTable w (bonusCheck p g) := by
  have hside : (withTable v g).side p = g.side p := by cases p <;> rfl
  have hhit : hitSlot p (withTable v g) = hitSlot p g := by
    refine find?_congr_scanned (g := g) fun i hi => ?_
    rw [onHead, onHead, hside, h i hi]
  unfold bonusCheck
  rw [hhit]
  cases hitSlot p g with
  | none => rfl
  | some i => cases p <;> rfl

/-- **`bonus_disp` reads no other slot.** -/
theorem bonusDisp_withTable (w : Vector Bonus MAX_BONUS)
    (h : ∀ i ∈ tableIndices ⟨.bonusDisp, g⟩ e, (withTable v g).slot i = g.slot i) :
    withTable w (bonusDisp (withTable v g)) = withTable w (bonusDisp g) := by
  have hfilter : (g.slots.filter fun i => ((withTable v g).slot i).activ) =
      g.slots.filter fun i => (g.slot i).activ :=
    List.filter_congr fun i hi => by rw [h i hi]
  have hprints : ((withTable v g).slots.filter fun i => ((withTable v g).slot i).activ).map
      (fun i => (⟨((withTable v g).slot i).posY, ((withTable v g).slot i).posX, "+"⟩ : Print)) =
      (g.slots.filter fun i => (g.slot i).activ).map
        fun i => ⟨(g.slot i).posY, (g.slot i).posX, "+"⟩ := by
    change (g.slots.filter _).map _ = _
    rw [hfilter]
    exact List.map_congr_left fun i hi => by rw [h i (List.mem_of_mem_filter hi)]
  unfold bonusDisp
  rw [hprints]
  rfl

lemma slot_initBonus_of_notMem (hi : i ∉ g.slots) : (initBonus g).slot i = g.slot i := by
  suffices h : ∀ (is : List ℕ) (g : Game), i ∉ is →
      (is.foldl (fun g i => g.setSlot i ⟨0, 0, false⟩) g).slot i = g.slot i from h _ g hi
  intro is
  induction is with
  | nil => exact fun g _ => rfl
  | cons j is ih =>
    intro g hi
    rw [List.mem_cons, not_or] at hi
    rw [List.foldl_cons, ih _ hi.2, slot_setSlot_ne _ _ hi.1]

/-- The slot at which a loop breaks has been looked at. -/
lemma mem_scanned {stop : ℕ → Bool} (h : g.slots.find? stop = some i) : i ∈ scanned g stop := by
  obtain ⟨hstop, before, after, hslots, hbefore⟩ := List.find?_eq_some_iff_append.1 h
  have hidx : (before ++ i :: after).findIdx stop = before.length := by
    rw [List.findIdx_append, List.findIdx_eq_length_of_false (by simpa using hbefore)]
    simp [List.findIdx_cons, hstop]
  rw [scanned, hslots, hidx]
  simp [List.take_append]

/-- **A step writes to no other slot.** -/
theorem slot_of_notMem_tableIndices (hstep : step c e = some c') (hi : i ∉ tableIndices c e) :
    c'.game.slot i = c.game.slot i := by
  cases step_books hstep with
  | menu pc game =>
    rw [game]
    rfl
  | init pc game after =>
    rw [game]
    exact slot_initBonus_of_notMem (by simpa only [tableIndices, pc] using hi)
  | create pc game after =>
    by_cases hdraws : Draws e c.game
    · rcases bonusCreate_cases game with hg | ⟨-, ⟨-, hg⟩ | ⟨j, x, y, hfree, hg⟩⟩ <;> rw [hg]
      · rfl
      · refine slot_setSlot_ne c.game _ ?_
        rintro rfl
        exact hi (by simpa only [tableIndices, pc, if_pos hdraws] using mem_scanned hfree)
    · have hsame := bonusCreate_of_not_draws (spawningRate_ne_zero game) hdraws
      rw [Option.some_inj.1 (hsame.symm.trans game)]
  | check p pc game after =>
    rw [game]
    cases hhit : hitSlot p c.game with
    | none => rw [bonusCheck, hhit]
    | some j =>
      rw [slot_bonusCheck hhit]
      refine slot_setSlot_ne _ _ ?_
      rintro rfl
      exact hi (by simpa only [tableIndices, pc] using mem_scanned hhit)
  | other create check same opening =>
    simp only [Game.tally, Prod.mk.injEq] at same
    rw [Game.slot, Game.slot, same.2.2.1]

end Table

section Run

variable {arg : List Char} {ch2 : ℤ} {es : List Input} {c : Config}

/-- **Spawning never jams.** In every reachable state the indices used on `bonus_list` are within
the table. Whenever there is a free slot, `nb_bonus` is below `max_bonus`; a call of `bonus_create`
whose draw is 1, in a window where the other draws do not trap, then fills the first free slot,
leaves all others as they are and counts one up. -/
theorem spawning_never_jams (hrun : main.run (initial arg ch2) es = some c) :
    (∀ e, ∀ i ∈ tableIndices c e, i < 100) ∧
    (∀ i : ℕ, i < c.game.maxBonus → (c.game.slot i).activ = false →
      c.game.nbBonus < c.game.maxBonus ∧
      ∀ e, cRem e.rand.1 c.game.spawningRate = some 1 → c.game.maxX ≠ 4 → c.game.maxY ≠ 6 →
        ∃ (g' : Game) (j : ℕ), bonusCreate e c.game = some g' ∧ j < c.game.maxBonus ∧
          (c.game.slot j).activ = false ∧ (∀ k < j, (c.game.slot k).activ = true) ∧
          (g'.slot j).activ = true ∧ (∀ k, k ≠ j → g'.slot k = c.game.slot k) ∧
          g'.nbBonus = c.game.nbBonus + 1) := by
  have h100 := (run_sound hrun).lt_MAX_BONUS
  refine ⟨fun e i hi => h100 i (tableIndices_subset c e hi), fun i hi hempty => ?_⟩
  have hcount : c.game.nbBonus ≤ (activeSlots c.game).card := run_undercounted hrun
  have hmem : i ∈ c.game.slots := (mem_slots c.game i).2 (by omega)
  -- the slot `i` is not among the full ones
  have hroom : (activeSlots c.game).card < c.game.maxBonus.toNat := by
    have hsub : activeSlots c.game ⊆ (Finset.range c.game.maxBonus.toNat).erase i := by
      intro j hj
      obtain ⟨hjs, hjact⟩ := (mem_activeSlots c.game j).1 hj
      refine Finset.mem_erase.2 ⟨?_, Finset.mem_range.2 ((mem_slots c.game j).1 hjs)⟩
      rintro rfl
      simp [hempty] at hjact
    have hcard := Finset.card_le_card hsub
    rw [Finset.card_erase_of_mem (Finset.mem_range.2 ((mem_slots c.game i).1 hmem)),
      Finset.card_range] at hcard
    omega
  have hlt : c.game.nbBonus < c.game.maxBonus := by omega
  refine ⟨hlt, fun e hadd hX hY => ?_⟩
  obtain ⟨j, hfree⟩ := freeSlot_isSome c.game hroom
  obtain ⟨hj, hjempty⟩ := freeSlot_eq_some c.game hfree
  obtain ⟨g', hg'⟩ := (bonusCreate_isSome_iff ⟨hadd, hlt⟩).2 ⟨hX, hY⟩
  obtain ⟨x, y, -, -, rfl⟩ := bonusCreate_stores hg' hadd hlt hfree
  have hjlt := (mem_slots c.game j).1 hj
  refine ⟨_, j, hg', by omega, hjempty, freeSlot_first hfree, ?_, ?_, rfl⟩
  · exact congrArg Bonus.activ (slot_setSlot_self c.game _ (h100 j hj))
  · exact fun k hk => slot_setSlot_ne c.game _ hk

end Run

/-- In the first frame of `squareRun` all slots are free. -/
theorem spawning_never_jams_first : ∃ c, main.run (initial ['1'] 0) (squareRun.take 13) = some c ∧
    c.pc = .bonusCreate ∧ c.game.nbBonus < c.game.maxBonus ∧
    ∃ (g' : Game) (j : ℕ), bonusCreate { rand := (1, 1, 0) } c.game = some g' ∧
      (g'.slot j).activ = true ∧ (∀ k, k ≠ j → g'.slot k = c.game.slot k) := by
  have h : (main.run (initial ['1'] 0) (squareRun.take 13)).map (fun c => (c.pc, c.game.maxBonus,
      (c.game.slot 0).activ, c.game.spawningRate, c.game.maxX, c.game.maxY)) =
      some (.bonusCreate, 3, false, 120, 8, 8) := by decide +kernel
  obtain ⟨c, hc, hfacts⟩ := Option.map_eq_some_iff.1 h
  simp only [Prod.mk.injEq] at hfacts
  obtain ⟨hpc, hmax, hempty, hrate, hX, hY⟩ := hfacts
  obtain ⟨hlt, hcall⟩ := (spawning_never_jams hc).2 0 (by omega) hempty
  obtain ⟨g', j, hg', -, -, -, hact, hother, -⟩ :=
    hcall { rand := (1, 1, 0) } (by rw [hrate]; rfl) (by omega) (by omega)
  exact ⟨c, hc, hpc, hlt, g', j, hg', hact, hother⟩

/-! ### Hidden bonuses -/

/-- A full slot on the cell of the head of `p` comes after another slot on that cell. -/
def Hidden (p : Player) (g : Game) : Prop :=
  ∃ i ∈ g.slots, (g.slot i).activ = true ∧ onHead p g i = true ∧ ∃ j < i, onHead p g j = true

/-- **A bonus on the cell of the head is still displayed after `bonus_check`** exactly if it is
hidden behind another slot. -/
lemma shown_bonusCheck_iff {p : Player} {g : Game} (h100 : ∀ i ∈ g.slots, i < MAX_BONUS) :
    Shown p (bonusCheck p g) ↔ Hidden p g := by
  rcases bonusCheck_cases g p with ⟨hnone, hg⟩ | ⟨i, hi, hg⟩
  · -- no slot is on the head
    have hno := (hitSlot_eq_none g p).1 hnone
    rw [hg]
    refine iff_of_false ?_ ?_
    · rintro ⟨j, hj, -, hon⟩
      simp [hno j hj] at hon
    · rintro ⟨j, hj, -, hon, -⟩
      simp [hno j hj] at hon
  · obtain ⟨his, hion⟩ := hitSlot_eq_some hi
    obtain ⟨-, -, hfirst⟩ := List.find?_range_eq_some.1 hi
    -- the call empties the slot `i` and leaves the others and the head where they are
    have hself : ((bonusCheck p g).slot i).activ = false := by
      rw [slot_bonusCheck hi, slot_setSlot_self g _ (h100 i his)]
    have hother : ∀ j, j ≠ i → (bonusCheck p g).slot j = g.slot j := by
      intro j hj
      rw [slot_bonusCheck hi, slot_setSlot_ne g _ hj]
    have hon : ∀ j, j ≠ i → onHead p (bonusCheck p g) j = onHead p g j := by
      intro j hj
      have hend : ((bonusCheck p g).side p).snakeEnd = (g.side p).snakeEnd := by
        rcases side_bonusCheck_self g p with ⟨-, hs⟩ | ⟨-, hs⟩ <;> rw [hs]
      rw [onHead, onHead, hother j hj, hend]
    rw [Shown, slots_bonusCheck]
    constructor
    · rintro ⟨j, hj, hact, hjon⟩
      have hji : j ≠ i := by
        rintro rfl
        simp [hself] at hact
      rw [hother j hji] at hact
      rw [hon j hji] at hjon
      refine ⟨j, hj, hact, hjon, i, ?_, hion⟩
      by_contra hle
      have := hfirst j (by omega)
      simp [hjon] at this
    · rintro ⟨j, hj, hact, hjon, k, hk, hkon⟩
      have hji : j ≠ i := by
        rintro rfl
        have := hfirst k hk
        simp [hkon] at this
      exact ⟨j, hj, by rwa [hother j hji], by rwa [hon j hji]⟩

/-- `bonus_create` is about to store a bonus on the cell of a full slot. -/
def Doubles (c : Config) (e : Input) : Prop :=
  c.pc = .bonusCreate ∧ ∃ g' ∈ bonusCreate e c.game, ∃ i ∈ stored c e, ∃ j ∈ c.game.slots,
    (c.game.slot j).activ = true ∧ (g'.slot i).posX = (c.game.slot j).posX ∧
      (g'.slot i).posY = (c.game.slot j).posY

instance (c : Config) (e : Input) : Decidable (Doubles c e) := by
  unfold Doubles; infer_instance

/-- No slot before a full one has its position. -/
def Spread (g : Game) : Prop :=
  ∀ j ∈ g.slots, (g.slot j).activ = true → ∀ i < j,
    ¬ ((g.slot i).posX = (g.slot j).posX ∧ (g.slot i).posY = (g.slot j).posY)

section Spread

variable {c c' : Config} {e : Input}

lemma Fresh.spread {g : Game} (h : Fresh g) : Spread g := by
  intro j _ hact
  simp [h.empty j] at hact

lemma Spread.not_hidden {g : Game} (h : Spread g) (p : Player) : ¬ Hidden p g := by
  rintro ⟨j, hj, hact, hjon, i, hi, hion⟩
  simp only [onHead, decide_eq_true_eq] at hjon hion
  exact h j hj hact i hi ⟨hion.2.symm.trans hjon.2, hion.1.symm.trans hjon.1⟩

/-- A meal empties a slot and moves none. -/
lemma spread_bonusCheck {g : Game} {p : Player} (h100 : ∀ i ∈ g.slots, i < MAX_BONUS)
    (h : Spread g) : Spread (bonusCheck p g) := by
  rcases hhit : hitSlot p g with _ | i
  · have hg : bonusCheck p g = g := by rw [bonusCheck, hhit]
    rwa [hg]
  · have hslot : ∀ k, ((bonusCheck p g).slot k).posX = (g.slot k).posX ∧
        ((bonusCheck p g).slot k).posY = (g.slot k).posY ∧
        (((bonusCheck p g).slot k).activ = true → (g.slot k).activ = true) := by
      intro k
      rw [slot_bonusCheck hhit]
      by_cases hk : k = i
      · subst hk
        rw [slot_setSlot_self g _ (h100 k (hitSlot_eq_some hhit).1)]
        exact ⟨rfl, rfl, fun hfalse => by cases hfalse⟩
      · rw [slot_setSlot_ne g _ hk]
        exact ⟨rfl, rfl, id⟩
    intro j hj hact k hk
    rw [slots_bonusCheck] at hj
    rw [(hslot j).1, (hslot j).2.1, (hslot k).1, (hslot k).2.1]
    exact h j hj ((hslot j).2.2 hact) k hk

/-- A bonus goes to the first free slot, so that all slots before it are full. -/
lemma spread_bonusCreate (h100 : ∀ i ∈ c.game.slots, i < MAX_BONUS) (hpc : c.pc = .bonusCreate)
    (hC : ¬ Doubles c e) (h : Spread c.game) {g' : Game} (hg' : bonusCreate e c.game = some g') :
    Spread g' := by
  rcases bonusCreate_cases hg' with rfl | ⟨-, ⟨-, rfl⟩ | ⟨i, x, y, hfree, rfl⟩⟩
  · exact h
  · exact h
  · obtain ⟨hi, hempty⟩ := freeSlot_eq_some _ hfree
    set b : Bonus := ⟨x, y, true⟩
    have hself : (c.game.setSlot i b).slot i = b := slot_setSlot_self _ _ (h100 i hi)
    have hother : ∀ k, k ≠ i → (c.game.setSlot i b).slot k = c.game.slot k :=
      fun k hk => slot_setSlot_ne _ _ hk
    have hstored : i ∈ stored c e := by
      rw [stored, if_pos hpc, hg']
      refine List.mem_filter.2 ⟨hi, ?_⟩
      have hact : ({ c.game.setSlot i b with nbBonus := c.game.nbBonus + 1 }.slot i).activ = true :=
        congrArg Bonus.activ hself
      simp [hempty, hact]
    -- the cell of the new bonus is not that of a full slot
    have hfresh : ∀ j ∈ c.game.slots, (c.game.slot j).activ = true →
        ¬ (x = (c.game.slot j).posX ∧ y = (c.game.slot j).posY) := by
      rintro j hj hact ⟨hx, hy⟩
      refine hC ⟨hpc, _, hg', i, hstored, j, hj, hact, ?_, ?_⟩
      · exact (congrArg Bonus.posX hself).trans hx
      · exact (congrArg Bonus.posY hself).trans hy
    intro j hj hact k hk
    change ¬ (((c.game.setSlot i b).slot k).posX = ((c.game.setSlot i b).slot j).posX ∧
      ((c.game.setSlot i b).slot k).posY = ((c.game.setSlot i b).slot j).posY)
    by_cases hji : j = i
    · subst hji
      have hkfull := freeSlot_first hfree k hk
      have hks : k ∈ c.game.slots := by
        rw [mem_slots] at hi ⊢
        omega
      rw [hself, hother k (by omega)]
      rintro ⟨hx, hy⟩
      exact hfresh k hks hkfull ⟨hx.symm, hy.symm⟩
    · have hact' : (c.game.slot j).activ = true := by
        rw [← hother j hji]
        exact hact
      rw [hother j hji]
      by_cases hki : k = i
      · subst hki
        rw [hself]
        exact hfresh j hj hact'
      · rw [hother k hki]
        exact h j hj hact' k hk

/-- **One step that stores nothing on a full slot's cell keeps the slots spread.** -/
theorem Spread.step (hsound : Sound c) (h : Spread c.game) (hC : ¬ Doubles c e)
    (hstep : step c e = some c') : Spread c'.game := by
  have h100 := hsound.lt_MAX_BONUS
  refine table_step hsound (fun _ => Fresh.spread) ?_
    (fun _ hpc => spread_bonusCreate h100 hpc hC h) (fun _ => spread_bonusCheck h100 h) h hstep
  intro g g' hmax _ hlist hspread
  unfold Spread Game.slots Game.slot at *
  rwa [hmax, hlist]

theorem run_spread {arg : List Char} {ch2 : ℤ} {es : List Input}
    (hC : main.Along (fun c e => ¬ Doubles c e) (initial arg ch2) es)
    (hrun : main.run (initial arg ch2) es = some c) : Spread c.game := by
  refine Machine.along_induction (s := c) (P := fun _ c => Spread c.game) ?_ ?_ hC hrun
  · -- `max_bonus` is 0 before the menus
    intro j hj
    have hj : j ∈ List.range 0 := hj
    simp at hj
  · intro es c e c' hrun h hC hstep
    exact h.step (run_sound hrun) hC hstep

end Spread

section Run

variable {arg : List Char} {ch2 : ℤ} {es : List Input} {c : Config}

/-- **An eaten bonus disappears unless it is hidden.** After a call of `bonus_check` no bonus is
displayed on the cell of the head, exactly if no full slot on that cell came after another one
there. In a run in which no bonus is stored on the cell of a full slot, all calls are so. -/
theorem eaten_bonus_disappears_unless_hidden (hrun : main.run (initial arg ch2) es = some c) :
    (∀ p, c.pc = .bonusCheck p → (¬ Shown p (bonusCheck p c.game) ↔ ¬ Hidden p c.game)) ∧
    (main.Along (fun c e => ¬ Doubles c e) (initial arg ch2) es →
      ∀ p, c.pc = .bonusCheck p → ¬ Shown p (bonusCheck p c.game)) := by
  have hiff : ∀ p, Shown p (bonusCheck p c.game) ↔ Hidden p c.game :=
    fun p => shown_bonusCheck_iff (run_sound hrun).lt_MAX_BONUS
  refine ⟨fun p _ => not_congr (hiff p), fun hC p _ => ?_⟩
  rw [hiff]
  exact (run_spread hC hrun).not_hidden p

end Run

/-- In the first frame of `squareRun` the bonus that the head comes to is eaten. -/
theorem eaten_bonus_disappears_square :
    ∃ c, main.run (initial ['1'] 0) (squareRun.take 19) = some c ∧ c.pc = .bonusCheck .one ∧
      Shown .one c.game ∧ ¬ Shown .one (bonusCheck .one c.game) := by
  have h : (main.run (initial ['1'] 0) (squareRun.take 19)).map (fun c => (c.pc,
      decide (Shown .one c.game))) = some (.bonusCheck .one, true) := by decide +kernel
  have hC : main.Along (fun c e => ¬ Doubles c e) (initial ['1'] 0) (squareRun.take 19) := by
    unfold Machine.Along
    decide +kernel
  obtain ⟨c, hc, hfacts⟩ := Option.map_eq_some_iff.1 h
  obtain ⟨hpc, hshown⟩ := Prod.mk_inj.1 hfacts
  exact ⟨c, hc, hpc, of_decide_eq_true hshown,
    (eaten_bonus_disappears_unless_hidden hc).2 hC .one hpc⟩

/-- Two bonuses are stored on the cell below the head, and the head goes down to it and once around
a square back to it. -/
def doubledRun : List Input :=
  (gameInputs 1 (8, 8) ['3'] [(0, -1, 1, 2, 0), (40, -1, 1, 2, 0), (48, -1, 0, 0, 0),
    (36, -1, 0, 0, 0), (34, -1, 0, 0, 0), (40, -1, 0, 0, 0)]).dropLast

/-- **A displayed bonus can stay under a head that eats**: in `doubledRun` the scan of the second
visit stops at the slot that the first visit has emptied. -/
theorem shown_bonus_not_eaten :
    ¬ ∀ (arg : List Char) (ch2 : ℤ) (es : List Input) (c : Config) (p : Player),
      main.run (initial arg ch2) es = some c → c.pc = .bonusCheck p →
        ¬ Shown p (bonusCheck p c.game) := by
  intro hall
  have h : (main.run (initial ['1'] 0) doubledRun.dropLast).map (fun c => (c.pc,
      decide (Shown .one (bonusCheck .one c.game)))) = some (.bonusCheck .one, true) := by
    decide +kernel
  obtain ⟨c, hc, hfacts⟩ := Option.map_eq_some_iff.1 h
  obtain ⟨hpc, hshown⟩ := Prod.mk_inj.1 hfacts
  exact hall ['1'] 0 doubledRun.dropLast c .one hc hpc (of_decide_eq_true hshown)

/-! ### Inside the walls -/

/-- A head of `p` on the cell of a bonus. -/
def headOn (p : Player) (b : Bonus) (d : Dir) (g : Game) : Game :=
  g.setSide p { g.side p with snakeEnd := ⟨b.posY, b.posX, d⟩ }

lemma wallCheck_headOn (p : Player) (b : Bonus) (d : Dir) (g : Game) :
    wallCheck p (headOn p b d g) = false ↔
      2 ≤ b.posY ∧ b.posY ≤ g.maxY - 3 ∧ 1 ≤ b.posX ∧ b.posX ≤ g.maxX - 2 := by
  have hX : (headOn p b d g).maxX = g.maxX := by cases p <;> rfl
  have hY : (headOn p b d g).maxY = g.maxY := by cases p <;> rfl
  have hend : ((headOn p b d g).side p).snakeEnd = ⟨b.posY, b.posX, d⟩ := by cases p <;> rfl
  simp only [wallCheck, hend, hX, hY, Bool.or_eq_false_iff, decide_eq_false_iff_not]
  omega

/-- `bonus_create` does not trap, and where it stores a bonus no head runs into a wall. -/
def SpawnsInside (c : Config) (e : Input) : Prop :=
  ∃ g', bonusCreate e c.game = some g' ∧
    ∀ i ∈ stored c e, ∀ p d, wallCheck p (headOn p (g'.slot i) d g') = false

/-- A remainder of a result of `rand()`: by a positive number, and by -1. -/
lemma cRem_rand {n : ℕ} {m x : ℤ} (h : cRem n m = some x) :
    (0 < m → 0 ≤ x ∧ x < m) ∧ (m = -1 → x = 0) := by
  obtain ⟨-, rfl⟩ : ¬ m = 0 ∧ Int.tmod n m = x := by simpa [cRem] using h
  refine ⟨fun hm => ⟨Int.tmod_nonneg _ (Int.natCast_nonneg n), Int.tmod_lt_of_pos _ hm⟩, ?_⟩
  rintro rfl
  simp [Int.tmod_neg]

section SpawnsInside

variable {c c' : Config} {e : Input}

/-- A bonus is stored at least two columns and three rows from the edges of the window, if there
is such a cell, and on a wall otherwise. -/
lemma wallCheck_of_stored {g g' : Game} {i : ℕ} (h100 : ∀ i ∈ g.slots, i < MAX_BONUS)
    (hdraws : Draws e g) (hfree : freeSlot g = some i) (hg' : bonusCreate e g = some g')
    (hY : 5 ≤ g.maxY) (hX : 3 ≤ g.maxX) (p : Player) (d : Dir) :
    wallCheck p (headOn p (g'.slot i) d g') = false ↔ 5 ≤ g.maxX ∧ 7 ≤ g.maxY := by
  obtain ⟨hX4, hY6⟩ := (bonusCreate_isSome_iff hdraws).1 ⟨g', hg'⟩
  obtain ⟨x, y, hx, hy, rfl⟩ := bonusCreate_stores hg' hdraws.1 hdraws.2 hfree
  have hslot : (g.setSlot i ⟨2 + x, 3 + y, true⟩).slot i = ⟨2 + x, 3 + y, true⟩ :=
    slot_setSlot_self _ _ (h100 i (freeSlot_eq_some _ hfree).1)
  have hx := cRem_rand hx
  have hy := cRem_rand hy
  rw [wallCheck_headOn]
  change 2 ≤ ((g.setSlot i ⟨2 + x, 3 + y, true⟩).slot i).posY ∧
    ((g.setSlot i ⟨2 + x, 3 + y, true⟩).slot i).posY ≤ g.maxY - 3 ∧
    1 ≤ ((g.setSlot i ⟨2 + x, 3 + y, true⟩).slot i).posX ∧
    ((g.setSlot i ⟨2 + x, 3 + y, true⟩).slot i).posX ≤ g.maxX - 2 ↔ _
  rw [hslot]
  simp only
  omega

/-- **What one call needs**, in a window that has a cell inside the walls. -/
lemma spawnsInside_iff (h100 : ∀ i ∈ c.game.slots, i < MAX_BONUS)
    (hrate : c.game.spawningRate ≠ 0) (hpc : c.pc = .bonusCreate) (hY : 5 ≤ c.game.maxY)
    (hX : 3 ≤ c.game.maxX) :
    SpawnsInside c e ↔ (Draws e c.game → c.game.maxX ≠ 4 ∧ c.game.maxY ≠ 6 ∧
      ((∃ i ∈ c.game.slots, (c.game.slot i).activ = false) →
        5 ≤ c.game.maxX ∧ 7 ≤ c.game.maxY)) := by
  by_cases hdraws : Draws e c.game
  · rw [SpawnsInside, forall_prop_of_true hdraws, ← and_assoc, ← bonusCreate_isSome_iff hdraws]
    constructor
    · rintro ⟨g', hg', hinside⟩
      refine ⟨⟨g', hg'⟩, fun ⟨j, hj, hempty⟩ => ?_⟩
      obtain ⟨i, hfree⟩ := exists_freeSlot hj hempty
      have hi : i ∈ stored c e := (mem_stored h100 hpc hg').2 ⟨hdraws, hfree⟩
      exact (wallCheck_of_stored h100 hdraws hfree hg' hY hX .one .right).1 (hinside i hi _ _)
    · rintro ⟨⟨g', hg'⟩, hroom⟩
      refine ⟨g', hg', fun i hi p d => ?_⟩
      obtain ⟨-, hfree⟩ := (mem_stored h100 hpc hg').1 hi
      have hempty := freeSlot_eq_some _ hfree
      exact (wallCheck_of_stored h100 hdraws hfree hg' hY hX p d).2 (hroom ⟨i, hempty⟩)
  · have hself := bonusCreate_of_not_draws hrate hdraws
    refine iff_of_true ⟨c.game, hself, fun i hi => ?_⟩ fun h => absurd h hdraws
    exact absurd ((mem_stored h100 hpc hself).1 hi).1 hdraws

/-- After its menu the spawning rate is positive; in the menu, one of the four lines is
highlighted. -/
def Rated (c : Config) : Prop :=
  match c.pc with
  | .menuDisp highlight => 0 ≤ highlight ∧ highlight < 4
  | _ => 0 < c.game.spawningRate

lemma rated_menuTurn {k : ℤ} (h : 0 ≤ k ∧ k < 4) (e : Input) (g : Game) :
    Rated (menuTurn k e g) := by
  have hk : 0 ≤ moveHighlight 4 e.key.toNat k ∧ moveHighlight 4 e.key.toNat k < 4 := by
    unfold moveHighlight
    split_ifs <;> omega
  simp only [menuTurn]
  split_ifs
  · change 0 < spawningRateOf _ _
    unfold spawningRateOf
    split_ifs <;> omega
  · exact hk

lemma next_menuDisp {n : ℕ} {pc : Pc} {k : ℤ} (h : next n pc (.menuDisp k)) :
    ∃ k', pc = .menuDisp k' := by
  unfold next at h
  split at h <;> grind

theorem Rated.step (h : Rated c) (hstep : step c e = some c') : Rated c' := by
  by_cases hmenu : ∃ k, c.pc = .menuDisp k
  · obtain ⟨k, hk⟩ := hmenu
    obtain ⟨pc, g⟩ := c
    obtain rfl : pc = .menuDisp k := hk
    obtain rfl := Option.some_inj.1 hstep
    exact rated_menuTurn h e g
  · have hrate : 0 < c.game.spawningRate := by
      unfold Rated at h
      split at h
      · exact absurd ⟨_, ‹_›⟩ hmenu
      · exact h
    rw [← (step_keeps hstep).rate fun k hk => hmenu ⟨k, hk⟩] at hrate
    unfold Rated
    split
    · rename_i k hk
      exact absurd (next_menuDisp (hk ▸ step_next hstep)) hmenu
    · exact hrate

theorem run_rated {arg : List Char} {ch2 : ℤ} {es : List Input}
    (hrun : main.run (initial arg ch2) es = some c) : Rated c := by
  refine Machine.run_inv (I := Rated) ?_ (fun _ _ _ h hstep => h.step hstep) hrun
  exact (by decide : (0 : ℤ) ≤ 0 ∧ (0 : ℤ) < 4)

/-- What one call needs in a run. -/
lemma run_spawnsInside_iff {arg : List Char} {ch2 : ℤ} {es : List Input}
    (hrun : main.run (initial arg ch2) es = some c) (hpc : c.pc = .bonusCreate)
    (hY : 5 ≤ c.game.maxY) (hX : 3 ≤ c.game.maxX) :
    SpawnsInside c e ↔ (Draws e c.game → c.game.maxX ≠ 4 ∧ c.game.maxY ≠ 6 ∧
      ((∃ i ∈ c.game.slots, (c.game.slot i).activ = false) →
        5 ≤ c.game.maxX ∧ 7 ≤ c.game.maxY)) := by
  have hrate : 0 < c.game.spawningRate := by
    have h := run_rated hrun
    rwa [Rated, hpc] at h
  exact spawnsInside_iff (run_sound hrun).lt_MAX_BONUS hrate.ne' hpc hY hX

end SpawnsInside

/-- One player comes to the first `bonus_create` in a window of any size, with a free slot. -/
lemma exists_first_spawn (Y X : ℤ) : ∃ es c, main.run (initial ['1'] 0) es = some c ∧
    c.pc = .bonusCreate ∧ c.game.maxY = Y ∧ c.game.maxX = X ∧
    Draws { rand := (1, 0, 0) } c.game ∧ 0 ∈ c.game.slots ∧ (c.game.slot 0).activ = false := by
  obtain ⟨c, hrun, hpc, hY, hX, hrate, hnb, hmax, hempty⟩ : ∃ c, main.run (initial ['1'] 0)
      ((gameInputs 1 (Y, X) ['1'] [(0, -1, 0, 0, 0)]).take 13) = some c ∧
      c.pc = .bonusCreate ∧ c.game.maxY = Y ∧ c.game.maxX = X ∧
      c.game.spawningRate = 120 ∧ c.game.nbBonus = 0 ∧ c.game.maxBonus = 1 ∧
      (c.game.slot 0).activ = false := ⟨_, rfl, rfl, rfl, rfl, rfl, rfl, rfl, rfl⟩
  refine ⟨_, c, hrun, hpc, hY, hX, ⟨?_, by omega⟩, ?_, hempty⟩
  · rw [hrate]
    rfl
  · rw [mem_slots, hmax]
    decide

/-- **Bonuses come inside the walls in windows with room for the margins, and in no others.** A
call that adds a bonus traps in a window of 4 columns or 6 rows, and in one of 3 columns or 5 rows
it stores the bonus on a wall. So all calls in a window are safe exactly if it has at least 5
columns and 7 rows. -/
theorem spawns_inside_iff_room {Y X : ℤ} (hY : 5 ≤ Y) (hX : 3 ≤ X) :
    (∀ arg ch2 es c, main.run (initial arg ch2) es = some c → c.pc = .bonusCreate →
      c.game.maxY = Y → c.game.maxX = X → ∀ e, (SpawnsInside c e ↔ (Draws e c.game →
        X ≠ 4 ∧ Y ≠ 6 ∧ ((∃ i ∈ c.game.slots, (c.game.slot i).activ = false) →
          5 ≤ X ∧ 7 ≤ Y)))) ∧
    ((∀ arg ch2 es c, main.run (initial arg ch2) es = some c → c.pc = .bonusCreate →
      c.game.maxY = Y → c.game.maxX = X → ∀ e, SpawnsInside c e) ↔ 5 ≤ X ∧ 7 ≤ Y) := by
  refine ⟨?_, fun hall => ?_, fun hroom => ?_⟩
  · rintro arg ch2 es c hrun hpc rfl rfl e
    exact run_spawnsInside_iff hrun hpc hY hX
  · obtain ⟨es, c, hrun, hpc, rfl, rfl, hdraws, hslot, hempty⟩ := exists_first_spawn Y X
    have hinside := hall _ _ _ c hrun hpc rfl rfl { rand := (1, 0, 0) }
    exact ((run_spawnsInside_iff hrun hpc hY hX).1 hinside hdraws).2.2 ⟨0, hslot, hempty⟩
  · rintro arg ch2 es c hrun hpc rfl rfl e
    refine (run_spawnsInside_iff hrun hpc hY hX).2 fun _ => ⟨?_, ?_, fun _ => hroom⟩
    · omega
    · omega

/-- The bonus that is stored in the first frame of `squareRun` is inside the walls. -/
theorem spawns_inside_square :
    ∃ c, main.run (initial ['1'] 0) (squareRun.take 13) = some c ∧
      SpawnsInside c { rand := (1, 1, 0) } := by
  have h : (main.run (initial ['1'] 0) (squareRun.take 13)).map (fun c => (c.pc, c.game.maxY,
      c.game.maxX)) = some (.bonusCreate, 8, 8) := by decide +kernel
  obtain ⟨c, hc, hfacts⟩ := Option.map_eq_some_iff.1 h
  simp only [Prod.mk.injEq] at hfacts
  obtain ⟨hpc, hY, hX⟩ := hfacts
  exact ⟨c, hc, (spawns_inside_iff_room (by decide) (by decide)).2.2 ⟨by decide, by decide⟩
    ['1'] 0 _ c hc hpc hY hX _⟩

/-- **The first bonus kills the process in a window of four columns, and lies on a wall in one of
three.** -/
theorem spawns_outside :
    (¬ ∀ (arg : List Char) (ch2 : ℤ) (es : List Input) (c : Config) (e : Input),
      main.run (initial arg ch2) es = some c → c.pc = .bonusCreate → 5 ≤ c.game.maxY →
        3 ≤ c.game.maxX → ∃ g', bonusCreate e c.game = some g') ∧
    ¬ ∀ (arg : List Char) (ch2 : ℤ) (es : List Input) (c : Config) (e : Input) (g' : Game),
      main.run (initial arg ch2) es = some c → c.pc = .bonusCreate → 5 ≤ c.game.maxY →
        3 ≤ c.game.maxX → bonusCreate e c.game = some g' →
          ∀ i ∈ stored c e, ∀ p d, wallCheck p (headOn p (g'.slot i) d g') = false := by
  constructor
  · intro hall
    obtain ⟨es, c, hrun, hpc, hY, hX, hdraws, -⟩ := exists_first_spawn 24 4
    have hsome := hall _ _ _ c { rand := (1, 0, 0) } hrun hpc (by omega) (by omega)
    exact ((bonusCreate_isSome_iff hdraws).1 hsome).1 hX
  · intro hall
    obtain ⟨es, c, hrun, hpc, hY, hX, hdraws, hslot, hempty⟩ := exists_first_spawn 24 3
    obtain ⟨g', hg'⟩ := (bonusCreate_isSome_iff hdraws).2 ⟨by omega, by omega⟩
    have hinside : SpawnsInside c { rand := (1, 0, 0) } :=
      ⟨g', hg', hall _ _ _ c _ g' hrun hpc (by omega) (by omega) hg'⟩
    have hroom := (run_spawnsInside_iff hrun hpc (by omega) (by omega)).1 hinside hdraws
    have hX5 := (hroom.2.2 ⟨0, hslot, hempty⟩).1
    omega

end UsbJoystick.Snake
