import UsbJoystick.Snake.Control

/-!
The bonus table and its counter.

`bonus_create` fills a free slot and counts it in `nb_bonus`; `bonus_check` empties a slot and
counts it out. The counter is right as long as the slot that `bonus_check` empties was full. The
scan of `bonus_check` does not ask for that: it compares positions only, and an emptied slot
keeps its position. `EatsStale` is the call that goes wrong. It is the only one: the counter is
right in all states of a run exactly when no call of the run is of that kind, and as long as there
is none every point scored stands for a bonus stored (`run_earned`).
-/

namespace UsbJoystick.Snake

open UsbJoystick.Lib

/-! ### Slots -/

section Slots

variable (g : Game) (i j : ℕ) (b : Bonus)

lemma mem_slots : i ∈ g.slots ↔ i < g.maxBonus.toNat := List.mem_range

lemma slot_setSlot_self {i : ℕ} (h : i < MAX_BONUS) : (g.setSlot i b).slot i = b := by
  simp [Game.slot, Game.setSlot, h]

lemma slot_setSlot_ne {i j : ℕ} (h : j ≠ i) : (g.setSlot i b).slot j = g.slot j := by
  simp [Game.slot, Game.setSlot, h.symm]

lemma activ_initBonus (h : (g.slot j).activ = false) : ((initBonus g).slot j).activ = false := by
  unfold initBonus
  induction g.slots generalizing g with
  | nil => exact h
  | cons i is ih =>
    refine ih _ ?_
    by_cases hij : j = i
    · subst hij
      by_cases hj : j < MAX_BONUS
      · rw [slot_setSlot_self g _ hj]
      · simp [Game.slot, hj]
    · rwa [slot_setSlot_ne g _ hij]

def activeSlots (g : Game) : Finset ℕ :=
  (Finset.range g.maxBonus.toNat).filter fun i => (g.slot i).activ = true

lemma mem_activeSlots : i ∈ activeSlots g ↔ i ∈ g.slots ∧ (g.slot i).activ = true := by
  simp [activeSlots, mem_slots]

lemma activeSlots_fill {i : ℕ} (hi : i ∈ g.slots) (h100 : i < MAX_BONUS) (hb : b.activ = true) :
    activeSlots (g.setSlot i b) = insert i (activeSlots g) := by
  ext j
  rw [Finset.mem_insert, mem_activeSlots, mem_activeSlots]
  by_cases hij : j = i
  · subst hij
    rw [slot_setSlot_self g b h100]
    exact iff_of_true ⟨hi, hb⟩ (Or.inl rfl)
  · rw [slot_setSlot_ne g b hij, or_iff_right hij]
    rfl

lemma activeSlots_empty {i : ℕ} (h100 : i < MAX_BONUS) (hb : b.activ = false) :
    activeSlots (g.setSlot i b) = (activeSlots g).erase i := by
  ext j
  rw [Finset.mem_erase, mem_activeSlots, mem_activeSlots]
  by_cases hij : j = i
  · subst hij
    rw [slot_setSlot_self g b h100, hb]
    simp
  · rw [slot_setSlot_ne g b hij, and_iff_right hij]
    rfl

lemma freeSlot_eq_some {i : ℕ} (h : freeSlot g = some i) :
    i ∈ g.slots ∧ (g.slot i).activ = false := by
  refine ⟨List.mem_of_find?_eq_some h, ?_⟩
  simpa using List.find?_some h

/-- If fewer slots are full than there are, the search of `bonus_create` finds one. -/
lemma freeSlot_isSome (h : (activeSlots g).card < g.maxBonus.toNat) : ∃ i, freeSlot g = some i := by
  by_contra hnone
  have hall : ∀ i ∈ g.slots, (g.slot i).activ = true := by
    have := List.find?_eq_none.1 (Option.eq_none_iff_forall_ne_some.2 fun i hi => hnone ⟨i, hi⟩)
    simpa using this
  have hfull : activeSlots g = Finset.range g.maxBonus.toNat := by
    ext i
    rw [mem_activeSlots, Finset.mem_range, mem_slots]
    exact and_iff_left_of_imp fun hi => hall i ((mem_slots g i).2 hi)
  rw [hfull, Finset.card_range] at h
  exact lt_irrefl _ h

end Slots

/-! ### What a step does to the table -/

def Opening : Pc → Prop
  | .menuDisp _ | .menu2Disp | .getmaxyxInit | .initSnake _ | .initBonus => True
  | _ => False

/-- What a step from `c` to `c'` can do to the bonuses and the scores. -/
inductive Books (c c' : Config) (e : Input) : Prop where
  | menu (pc : c.pc = .menu2Disp) (game : c'.game = menu2Disp e c.game)
  | init (pc : c.pc = .initBonus) (game : c'.game = initBonus c.game) (after : ¬ Opening c'.pc)
  | create (pc : c.pc = .bonusCreate) (game : bonusCreate e c.game = some c'.game)
      (after : ¬ Opening c'.pc)
  | check (p : Player) (pc : c.pc = .bonusCheck p) (game : c'.game = bonusCheck p c.game)
      (after : ¬ Opening c'.pc)
  | other (create : c.pc ≠ .bonusCreate) (check : ∀ p, c.pc ≠ .bonusCheck p)
      (same : c'.game.tally = c.game.tally) (opening : Opening c'.pc → Opening c.pc)

/-- The opening is not entered again. -/
lemma next_opening {n : ℕ} {pc pc' : Pc} (h : next n pc pc') (ho : Opening pc') : Opening pc := by
  unfold next at h
  split at h <;> grind [Opening]

/-- **`Books` lists everything a step can do to the bonuses and the scores.** -/
theorem step_books {c c' : Config} {e : Input} (h : step c e = some c') : Books c c' e := by
  have hnext := step_next h
  have htally := (step_leaves h).tally
  obtain ⟨pc, g⟩ := c
  cases pc with
  | menu2Disp =>
    obtain rfl := Option.some_inj.1 h
    exact .menu rfl rfl
  | initBonus =>
    obtain rfl := Option.some_inj.1 h
    exact .init rfl rfl id
  | bonusCreate =>
    obtain ⟨g', hg', rfl⟩ := Option.map_eq_some_iff.1 h
    exact .create rfl hg' id
  | bonusCheck q =>
    have hgame : c'.game = bonusCheck q g := by
      cases q <;> obtain rfl := Option.some_inj.1 h <;> rfl
    exact .check q rfl hgame fun ho => next_opening hnext ho
  | _ => exact .other (by simp) (by simp) (htally id) (next_opening hnext)

/-! ### Before the game -/

/-- No bonus is there, and no point. -/
structure Fresh (g : Game) : Prop where
  empty : ∀ i, (g.slot i).activ = false
  nbBonus : g.nbBonus = 0
  one : g.one.score = 0
  two : g.two.score = 0

lemma Fresh.activeSlots_eq {g : Game} (h : Fresh g) : activeSlots g = ∅ := by
  refine Finset.filter_eq_empty_iff.2 fun i _ => ?_
  simp [h.empty i]

/-- The table is within its bounds, and there is nothing in it before the game. -/
def Sound (c : Config) : Prop := c.game.maxBonus ≤ MAX_BONUS ∧ (Opening c.pc → Fresh c.game)

section Sound

variable {c c' : Config} {e : Input}

lemma Sound.lt_MAX_BONUS (h : Sound c) : ∀ i ∈ c.game.slots, i < MAX_BONUS := by
  intro i hi
  have hi := (mem_slots _ _).1 hi
  have := h.1
  omega

lemma fresh_menu2Disp {g : Game} (h : Fresh g) (e : Input) : Fresh (menu2Disp e g) :=
  ⟨h.empty, h.nbBonus, h.one, h.two⟩

lemma fresh_initBonus {g : Game} (h : Fresh g) : Fresh (initBonus g) := by
  obtain ⟨b, hb⟩ := initBonus_eq g
  refine ⟨fun i => activ_initBonus g i (h.empty i), ?_, ?_, ?_⟩ <;> rw [hb]
  · exact h.nbBonus
  · exact h.one
  · exact h.two

lemma Sound.step (h : Sound c) (hstep : step c e = some c') : Sound c' := by
  obtain ⟨h100, hfresh⟩ := h
  cases step_books hstep with
  | menu pc game =>
    rw [Sound, game]
    refine ⟨?_, fun _ => fresh_menu2Disp (hfresh (by rw [pc]; trivial)) e⟩
    simp only [menu2Disp]
    split_ifs with hgt
    · exact le_rfl
    · exact not_lt.1 hgt
  | init pc game after =>
    obtain ⟨b, hb⟩ := initBonus_eq c.game
    refine ⟨?_, fun ho => absurd ho after⟩
    rw [game, hb]
    exact h100
  | create pc game after =>
    refine ⟨?_, fun ho => absurd ho after⟩
    rcases bonusCreate_cases game with hg | ⟨-, ⟨-, hg⟩ | ⟨i, x, y, -, hg⟩⟩ <;> rw [hg] <;>
      exact h100
  | check p pc game after =>
    refine ⟨?_, fun ho => absurd ho after⟩
    rw [game]
    rcases bonusCheck_cases c.game p with ⟨-, hg⟩ | ⟨i, -, hg⟩ <;> rw [hg]
    · exact h100
    · cases p <;> exact h100
  | other create check same opening =>
    simp only [Game.tally, Prod.mk.injEq] at same
    obtain ⟨hmax, hnb, hlist, hone, htwo⟩ := same
    refine ⟨hmax ▸ h100, fun ho => ?_⟩
    have hf := hfresh (opening ho)
    refine ⟨fun i => ?_, hnb.trans hf.nbBonus, hone.trans hf.one, htwo.trans hf.two⟩
    rw [Game.slot, hlist]
    exact hf.empty i

theorem run_sound {arg : List Char} {ch2 : ℤ} {es : List Input}
    (hrun : main.run (initial arg ch2) es = some c) : Sound c := by
  refine Machine.run_inv (I := Sound) ?_ (fun c e c' h hstep => h.step hstep) hrun
  refine ⟨by simp [initial], fun _ => ⟨fun i => ?_, rfl, rfl, rfl⟩⟩
  by_cases hi : i < MAX_BONUS <;> simp [Game.slot, initial, hi]

end Sound

/-! ### One call of `bonus_create` and of `bonus_check` -/

def Game.points (g : Game) : ℕ := g.one.score + g.two.score

section Calls

variable {g g' : Game} {e : Input} {p : Player} {i : ℕ}

/-- A bonus that is counted goes to the first free slot, if there is one. -/
lemma bonusCreate_table (h100 : ∀ i ∈ g.slots, i < MAX_BONUS) (h : bonusCreate e g = some g') :
    g'.points = g.points ∧
      (g'.nbBonus = g.nbBonus ∧ activeSlots g' = activeSlots g ∨
        g.nbBonus < g.maxBonus ∧ g'.nbBonus = g.nbBonus + 1 ∧
          (freeSlot g = none ∧ activeSlots g' = activeSlots g ∨
            ∃ i ∉ activeSlots g, activeSlots g' = insert i (activeSlots g))) := by
  rcases bonusCreate_cases h with rfl | ⟨hlt, ⟨hfree, rfl⟩ | ⟨i, x, y, hfree, rfl⟩⟩
  · exact ⟨rfl, Or.inl ⟨rfl, rfl⟩⟩
  · exact ⟨rfl, Or.inr ⟨hlt, rfl, Or.inl ⟨hfree, rfl⟩⟩⟩
  · obtain ⟨hi, hempty⟩ := freeSlot_eq_some g hfree
    refine ⟨rfl, Or.inr ⟨hlt, rfl, Or.inr ⟨i, ?_, activeSlots_fill g _ hi (h100 i hi) rfl⟩⟩⟩
    simp [mem_activeSlots, hempty]

lemma bonusCreate_stores (h : bonusCreate e g = some g')
    (hadd : cRem e.rand.1 g.spawningRate = some 1) (hlt : g.nbBonus < g.maxBonus)
    (hfree : freeSlot g = some i) :
    ∃ x y, cRem e.rand.2.1 (g.maxX - 4) = some x ∧ cRem e.rand.2.2 (g.maxY - 6) = some y ∧
      g' = { g.setSlot i ⟨2 + x, 3 + y, true⟩ with nbBonus := g.nbBonus + 1 } := by
  obtain ⟨add, hadd', h⟩ := Option.bind_eq_some_iff.1 h
  obtain rfl : 1 = add := Option.some_inj.1 (hadd.symm.trans hadd')
  rw [if_pos ⟨rfl, hlt⟩] at h
  obtain ⟨x, hx, h⟩ := Option.bind_eq_some_iff.1 h
  obtain ⟨y, hy, h⟩ := Option.bind_eq_some_iff.1 h
  exact ⟨x, y, hx, hy, by simpa [hfree, eq_comm] using h⟩

lemma hitSlot_eq_some (h : hitSlot p g = some i) : i ∈ g.slots ∧ onHead p g i = true :=
  ⟨List.mem_of_find?_eq_some h, List.find?_some h⟩

/-- A meal empties the slot where the scan stops, and makes a point. -/
lemma bonusCheck_table (h100 : ∀ i ∈ g.slots, i < MAX_BONUS) (hi : hitSlot p g = some i) :
    (bonusCheck p g).points = g.points + 1 ∧ (bonusCheck p g).nbBonus = g.nbBonus - 1 ∧
      activeSlots (bonusCheck p g) = (activeSlots g).erase i := by
  rcases bonusCheck_cases g p with ⟨hnone, -⟩ | ⟨j, hj, hg⟩
  · cases hi.symm.trans hnone
  · obtain rfl : i = j := Option.some_inj.1 (hi.symm.trans hj)
    have hslot := activeSlots_empty g { g.slot i with activ := false }
      (h100 i (hitSlot_eq_some hi).1) rfl
    rw [hg]
    refine ⟨?_, rfl, ?_⟩
    · cases p <;> simp only [Game.points, Game.setSlot, Game.setSide, Game.side] <;> omega
    · cases p <;> exact hslot

end Calls

/-! ### The counter -/

/-- `nb_bonus` is the number of full slots. -/
def Accounted (g : Game) : Prop := g.nbBonus = (activeSlots g).card

/-- `bonus_check(p)` is about to run, and the slot that its scan stops at is empty. -/
def EatsStale (p : Player) (c : Config) : Prop :=
  c.pc = .bonusCheck p ∧ ∃ i ∈ hitSlot p c.game, (c.game.slot i).activ = false

instance (p : Player) (c : Config) : Decidable (EatsStale p c) := by
  unfold EatsStale; infer_instance

section Accounted

variable {c c' : Config} {e : Input}

lemma Fresh.accounted {g : Game} (h : Fresh g) : Accounted g := by
  rw [Accounted, h.activeSlots_eq, h.nbBonus]
  rfl

/-- The counter is right after `bonus_create`, since there is a free slot for what it counts. -/
lemma accounted_bonusCreate {g g' : Game} (h100 : ∀ i ∈ g.slots, i < MAX_BONUS)
    (hacc : Accounted g) (h : bonusCreate e g = some g') : Accounted g' := by
  unfold Accounted at *
  obtain ⟨-, ⟨hnb, hact⟩ | ⟨hlt, hnb, ⟨hfree, -⟩ | ⟨i, hi, hact⟩⟩⟩ := bonusCreate_table h100 h
  · rw [hnb, hact, hacc]
  · obtain ⟨i, hi⟩ := freeSlot_isSome g (by omega)
    cases hi.symm.trans hfree
  · rw [hnb, hact, Finset.card_insert_of_notMem hi, hacc]
    rfl

/-- The counter is right after `bonus_check` exactly when the emptied slot was full. -/
lemma accounted_bonusCheck {g : Game} {p : Player} (h100 : ∀ i ∈ g.slots, i < MAX_BONUS)
    (hacc : Accounted g) :
    Accounted (bonusCheck p g) ↔ ¬ ∃ i ∈ hitSlot p g, (g.slot i).activ = false := by
  rcases hhit : hitSlot p g with _ | i
  · have hg : bonusCheck p g = g := by rw [bonusCheck, hhit]
    simpa [hg] using hacc
  · obtain ⟨-, hnb, hact⟩ := bonusCheck_table h100 hhit
    unfold Accounted at *
    rw [hnb, hact, hacc]
    by_cases hactiv : (g.slot i).activ = true
    · have hi : i ∈ activeSlots g := (mem_activeSlots g i).2 ⟨(hitSlot_eq_some hhit).1, hactiv⟩
      have hpos := Finset.card_pos.2 ⟨i, hi⟩
      refine iff_of_true ?_ (by simp [hactiv])
      rw [Finset.card_erase_of_mem hi]
      omega
    · have hi : i ∉ activeSlots g := fun hi => hactiv ((mem_activeSlots g i).1 hi).2
      refine iff_of_false ?_ (by simpa using hactiv)
      rw [Finset.erase_eq_of_notMem hi]
      omega

/-- **One step keeps the counter right exactly when it is not a stale meal.** -/
theorem accounted_step (hsound : Sound c) (hacc : Accounted c.game) (hstep : step c e = some c') :
    Accounted c'.game ↔ ∀ p, ¬ EatsStale p c := by
  have h100 := hsound.lt_MAX_BONUS
  have harmless : (∀ p, c.pc ≠ .bonusCheck p) → ∀ p, ¬ EatsStale p c :=
    fun hpc p h => hpc p h.1
  cases step_books hstep with
  | menu pc game =>
    have hf := fresh_menu2Disp (hsound.2 (by rw [pc]; trivial)) e
    exact iff_of_true (game ▸ hf).accounted (harmless (by simp [pc]))
  | init pc game after =>
    have hf := fresh_initBonus (hsound.2 (by rw [pc]; trivial))
    exact iff_of_true (game ▸ hf).accounted (harmless (by simp [pc]))
  | create pc game after =>
    exact iff_of_true (accounted_bonusCreate h100 hacc game) (harmless (by simp [pc]))
  | check p pc game after =>
    rw [game, accounted_bonusCheck h100 hacc]
    constructor
    · rintro hfull q ⟨hq, hstale⟩
      obtain rfl : p = q := by simpa [pc] using hq
      exact hfull hstale
    · exact fun hall hstale => hall p ⟨pc, hstale⟩
  | other create check same opening =>
    refine iff_of_true ?_ (harmless check)
    simp only [Game.tally, Prod.mk.injEq] at same
    obtain ⟨hmax, hnb, hlist, -, -⟩ := same
    unfold Accounted activeSlots Game.slot at *
    rwa [hmax, hnb, hlist]

end Accounted

/-! ### The points -/

/-- The slots that a step fills. -/
def stored (c : Config) (e : Input) : List ℕ :=
  if c.pc = .bonusCreate then
    (bonusCreate e c.game).elim [] fun g' =>
      c.game.slots.filter fun i => !(c.game.slot i).activ && (g'.slot i).activ
  else []

/-- Every bonus stored is still there or has made a point. -/
def Earned (n : ℕ) (g : Game) : Prop := g.points + (activeSlots g).card = n

section Earned

variable {n : ℕ} {c c' : Config} {e : Input}

lemma Fresh.earned {g : Game} (h : Fresh g) : Earned 0 g := by
  rw [Earned, h.activeSlots_eq, Game.points, h.one, h.two]
  rfl

lemma stored_eq_nil (h : c.pc ≠ .bonusCreate) : stored c e = [] := if_neg h

/-- The slots that a call of `bonus_create` fills come on top of the full ones. -/
lemma card_activeSlots_stored (h100 : ∀ i ∈ c.game.slots, i < MAX_BONUS)
    (hpc : c.pc = .bonusCreate) {g' : Game} (h : bonusCreate e c.game = some g') :
    (activeSlots g').card = (activeSlots c.game).card + (stored c e).length := by
  have hmax : g'.maxBonus = c.game.maxBonus := by
    rcases bonusCreate_cases h with rfl | ⟨-, ⟨-, rfl⟩ | ⟨i, x, y, -, rfl⟩⟩ <;> rfl
  have hsub : activeSlots c.game ⊆ activeSlots g' := by
    obtain ⟨-, ⟨-, hact⟩ | ⟨-, -, ⟨-, hact⟩ | ⟨i, -, hact⟩⟩⟩ := bonusCreate_table h100 h <;>
      rw [hact]
    exact Finset.subset_insert i _
  have hstored : stored c e =
      c.game.slots.filter fun i => !(c.game.slot i).activ && (g'.slot i).activ := by
    rw [stored, if_pos hpc, h]
    rfl
  have hset : (stored c e).toFinset = activeSlots g' \ activeSlots c.game := by
    ext i
    simp only [hstored, List.mem_toFinset, List.mem_filter, Finset.mem_sdiff, mem_activeSlots,
      mem_slots, hmax, Bool.and_eq_true, Bool.not_eq_true', not_and, Bool.not_eq_true]
    tauto
  have hnodup : (stored c e).Nodup := by
    rw [hstored]
    exact List.nodup_range.filter _
  rw [← List.toFinset_card_of_nodup hnodup, hset, add_comm,
    Finset.card_sdiff_add_card_eq_card hsub]

/-- **One step keeps the points earned**, unless it is a stale meal. -/
theorem Earned.step (hsound : Sound c) (hC : ∀ p, ¬ EatsStale p c) (h : Earned n c.game)
    (hstep : step c e = some c') : Earned (n + (stored c e).length) c'.game := by
  have h100 := hsound.lt_MAX_BONUS
  have idle : c.pc ≠ .bonusCreate → Earned n c'.game →
      Earned (n + (stored c e).length) c'.game := by
    intro hpc h
    rwa [stored_eq_nil hpc]
  cases step_books hstep with
  | menu pc game =>
    have hf := hsound.2 (by rw [pc]; trivial)
    obtain rfl : 0 = n := hf.earned.symm.trans h
    exact idle (by simp [pc]) (game ▸ fresh_menu2Disp hf e).earned
  | init pc game after =>
    have hf := hsound.2 (by rw [pc]; trivial)
    obtain rfl : 0 = n := hf.earned.symm.trans h
    exact idle (by simp [pc]) (game ▸ fresh_initBonus hf).earned
  | create pc game after =>
    have hcard := card_activeSlots_stored h100 pc game
    have hpoints := (bonusCreate_table h100 game).1
    unfold Earned at *
    omega
  | check p pc game after =>
    refine idle (by simp [pc]) ?_
    rw [game]
    rcases hhit : hitSlot p c.game with _ | i
    · rwa [bonusCheck, hhit]
    · -- the meal empties a full slot
      obtain ⟨hpoints, -, hact⟩ := bonusCheck_table h100 hhit
      have hactiv : (c.game.slot i).activ = true := by
        by_contra hfalse
        exact hC p ⟨pc, i, hhit, by simpa using hfalse⟩
      have hi : i ∈ activeSlots c.game :=
        (mem_activeSlots _ i).2 ⟨(hitSlot_eq_some hhit).1, hactiv⟩
      have hpos := Finset.card_pos.2 ⟨i, hi⟩
      unfold Earned at *
      rw [hpoints, hact, Finset.card_erase_of_mem hi]
      omega
  | other create check same opening =>
    refine idle create ?_
    simp only [Game.tally, Prod.mk.injEq] at same
    obtain ⟨hmax, -, hlist, hone, htwo⟩ := same
    unfold Earned Game.points activeSlots Game.slot at *
    rwa [hmax, hlist, hone, htwo]

end Earned

/-! ### Runs -/

section Run

variable {arg : List Char} {ch2 : ℤ} {es : List Input} {c : Config}

/-- **As long as there is no stale meal, every point stands for a bonus stored.** -/
theorem run_earned (hC : main.Along (fun c _ => ∀ p, ¬ EatsStale p c) (initial arg ch2) es)
    (hrun : main.run (initial arg ch2) es = some c) :
    Earned (main.log stored (initial arg ch2) es).length c.game := by
  refine Machine.along_induction
    (P := fun es c => Earned (main.log stored (initial arg ch2) es).length c.game) ?_ ?_ hC hrun
  · rfl
  · intro es c e c' hrun hearned hCe hstep
    rw [Machine.log_snoc stored hrun, List.length_append]
    exact hearned.step (run_sound hrun) hCe hstep

/-- In its first two frames `squareRun` has one meal, which is not stale. -/
lemma squareRun_two_frames : ∃ c, main.run (initial ['1'] 0) (squareRun.take 36) = some c ∧
    c.game.one.score = 1 ∧ main.Along (fun c _ => ∀ p, ¬ EatsStale p c) (initial ['1'] 0)
      (squareRun.take 36) := by
  have h : (main.run (initial ['1'] 0) (squareRun.take 36)).map (fun c => c.game.one.score)
      = some 1 := by decide +kernel
  obtain ⟨c, hc, hscore⟩ := Option.map_eq_some_iff.1 h
  refine ⟨c, hc, hscore, ?_⟩
  unfold Machine.Along
  decide +kernel

/-- **The counter is right unless there is a stale meal.** `nb_bonus` is the number of full
slots in all states of a run exactly when the scan of no `bonus_check` stops at an empty slot. In
such a run the counter is never negative, and a bonus that passes the guard of `bonus_create` is
stored in a slot that was free. -/
theorem bonus_counter_right_iff (hrun : main.run (initial arg ch2) es = some c) :
    ((∀ es' c', es' <+: es → main.run (initial arg ch2) es' = some c' → Accounted c'.game) ↔
      main.Along (fun c _ => ∀ p, ¬ EatsStale p c) (initial arg ch2) es) ∧
    (main.Along (fun c _ => ∀ p, ¬ EatsStale p c) (initial arg ch2) es →
      0 ≤ c.game.nbBonus ∧
      (c.game.nbBonus < c.game.maxBonus → ∃ i ∈ c.game.slots, (c.game.slot i).activ = false ∧
        ∀ e g', bonusCreate e c.game = some g' → cRem e.rand.1 c.game.spawningRate = some 1 →
          ∃ x y, cRem e.rand.2.1 (c.game.maxX - 4) = some x ∧
            cRem e.rand.2.2 (c.game.maxY - 6) = some y ∧ g'.slot i = ⟨2 + x, 3 + y, true⟩)) := by
  have hinit : Accounted (initial arg ch2).game := rfl
  have hiff := Machine.forall_states_iff_along (M := main) (I := fun c => Accounted c.game) hinit
    (fun es c e c' hrun hacc hstep => accounted_step (run_sound hrun) hacc hstep) hrun
  refine ⟨hiff, fun hC => ?_⟩
  have hacc : Accounted c.game := hiff.2 hC es c (List.prefix_refl es) hrun
  have hnb : c.game.nbBonus = (activeSlots c.game).card := hacc
  refine ⟨by omega, fun hlt => ?_⟩
  obtain ⟨i, hfree⟩ := freeSlot_isSome c.game (by omega)
  obtain ⟨hi, hempty⟩ := freeSlot_eq_some c.game hfree
  refine ⟨i, hi, hempty, fun e g' hcreate hadd => ?_⟩
  obtain ⟨x, y, hx, hy, rfl⟩ := bonusCreate_stores hcreate hadd hlt hfree
  exact ⟨x, y, hx, hy, slot_setSlot_self c.game _ ((run_sound hrun).lt_MAX_BONUS i hi)⟩

theorem bonus_counter_right_two_frames :
    ∃ c, main.run (initial ['1'] 0) (squareRun.take 36) = some c ∧ c.game.one.score = 1 ∧
      Accounted c.game ∧ 0 ≤ c.game.nbBonus := by
  obtain ⟨c, hc, hscore, hC⟩ := squareRun_two_frames
  obtain ⟨hiff, hrest⟩ := bonus_counter_right_iff hc
  exact ⟨c, hc, hscore, hiff.2 hC _ c (List.prefix_refl _) hc, (hrest hC).1⟩

/-- **The counter can be wrong, and negative, after a `bonus_check`**: in `squareRun` the head
comes back to the cell where it has eaten the only bonus. -/
theorem bonus_counter_negative :
    ¬ ∀ (arg : List Char) (ch2 : ℤ) (es : List Input) (c : Config),
      main.run (initial arg ch2) es = some c → c.pc = .refresh →
        Accounted c.game ∨ 0 ≤ c.game.nbBonus := by
  intro hall
  have h : (main.run (initial ['1'] 0) squareRun).map (fun c => (c.pc, c.game.nbBonus))
      = some (.refresh, -1) := by decide +kernel
  obtain ⟨c, hc, hpc⟩ := Option.map_eq_some_iff.1 h
  obtain ⟨hpc, hnb⟩ := Prod.mk_inj.1 hpc
  rcases hall ['1'] 0 squareRun c hc hpc with hacc | hpos
  · have hcard : c.game.nbBonus = (activeSlots c.game).card := hacc
    omega
  · omega

/-- A bonus that `bonus_disp` shows lies on the cell of the head of `p`. -/
def Shown (p : Player) (g : Game) : Prop :=
  ∃ i ∈ g.slots, (g.slot i).activ = true ∧ onHead p g i = true

instance (p : Player) (g : Game) : Decidable (Shown p g) := by unfold Shown; infer_instance

/-- `bonus_check(p)` makes a point and a cell for a bonus that is shown, and does nothing to `p`
otherwise. -/
def EatsShown (p : Player) (g : Game) : Prop :=
  (bonusCheck p g).side p = if Shown p g then
    { g.side p with score := (g.side p).score + 1, snake := snakeGrow (g.side p).snake }
  else g.side p

instance (p : Player) (g : Game) : Decidable (EatsShown p g) := by unfold EatsShown; infer_instance

/-- One call goes wrong exactly when there are slots on the cell of the head and they are all
empty. -/
lemma eatsShown_iff (p : Player) (g : Game) :
    EatsShown p g ↔ ((∃ i ∈ g.slots, onHead p g i = true) → Shown p g) := by
  have hsub : Shown p g → ∃ i ∈ g.slots, onHead p g i = true := by
    rintro ⟨i, hi, -, hon⟩
    exact ⟨i, hi, hon⟩
  unfold EatsShown
  rcases side_bonusCheck_self g p with ⟨hnone, hs⟩ | ⟨hsome, hs⟩ <;> rw [hs]
  · have hno : ¬ ∃ i ∈ g.slots, onHead p g i = true := by simpa using hnone
    rw [if_neg fun h => hno (hsub h)]
    exact iff_of_true rfl fun h => absurd h hno
  · by_cases hshown : Shown p g
    · rw [if_pos hshown]
      exact iff_of_true rfl fun _ => hshown
    · rw [if_neg hshown]
      refine iff_of_false (fun heq => ?_) fun h => hshown (h hsome)
      simpa using congrArg Side.score heq

/-- **What is eaten is what is displayed unless there is a stale meal.** A call of `bonus_check`
makes a point for a displayed bonus only, exactly if some slot on the cell of the head is full
whenever there is a slot there. In a run in which the scans stop at full slots only, all calls
are so, and the points of both players are at most the bonuses stored. -/
theorem eats_what_is_shown_unless_stale (hrun : main.run (initial arg ch2) es = some c) :
    (∀ p, c.pc = .bonusCheck p →
      (EatsShown p c.game ↔ ((∃ i ∈ c.game.slots, onHead p c.game i = true) → Shown p c.game))) ∧
    (main.Along (fun c _ => ∀ p, ¬ EatsStale p c) (initial arg ch2) es →
      (∀ x ∈ main.trace (initial arg ch2) es, ∀ p, x.1.pc = .bonusCheck p →
        EatsShown p x.1.game) ∧
      c.game.one.score + c.game.two.score ≤ (main.log stored (initial arg ch2) es).length) := by
  refine ⟨fun p _ => eatsShown_iff p c.game, fun hC => ⟨fun x hx p hpc => ?_, ?_⟩⟩
  · rw [eatsShown_iff]
    rintro ⟨i, hi, hon⟩
    obtain ⟨j, hj⟩ : ∃ j, hitSlot p x.1.game = some j := by
      by_contra hnone
      have hnone := Option.eq_none_iff_forall_ne_some.2 fun j hj => hnone ⟨j, hj⟩
      simp [(hitSlot_eq_none _ _).1 hnone i hi] at hon
    obtain ⟨hjs, hjon⟩ := hitSlot_eq_some hj
    refine ⟨j, hjs, ?_, hjon⟩
    by_contra hempty
    exact hC x hx p ⟨hpc, j, hj, by simpa using hempty⟩
  · have hearned : c.game.points + (activeSlots c.game).card = _ := run_earned hC hrun
    rw [← hearned]
    exact Nat.le_add_right _ _

theorem eats_what_is_shown_two_frames :
    ∃ c, main.run (initial ['1'] 0) (squareRun.take 36) = some c ∧ c.game.one.score = 1 ∧
      c.game.one.score + c.game.two.score ≤
        (main.log stored (initial ['1'] 0) (squareRun.take 36)).length := by
  obtain ⟨c, hc, hscore, hC⟩ := squareRun_two_frames
  exact ⟨c, hc, hscore, ((eats_what_is_shown_unless_stale hc).2 hC).2⟩

/-- **A point can be made where nothing is displayed, and there can be more points than
bonuses**, both in `squareRun`. -/
theorem eats_what_is_not_shown :
    (¬ ∀ (arg : List Char) (ch2 : ℤ) (es : List Input) (c : Config) (p : Player),
      main.run (initial arg ch2) es = some c → c.pc = .bonusCheck p → EatsShown p c.game) ∧
    ¬ ∀ (arg : List Char) (ch2 : ℤ) (es : List Input) (c : Config),
      main.run (initial arg ch2) es = some c → c.game.one.score + c.game.two.score ≤
        (main.log stored (initial arg ch2) es).length := by
  constructor
  · intro hall
    have h : (main.run (initial ['1'] 0) squareRun.dropLast).map
        (fun c => (c.pc, decide (EatsShown .one c.game))) = some (.bonusCheck .one, false) := by
      decide +kernel
    obtain ⟨c, hc, hpc⟩ := Option.map_eq_some_iff.1 h
    obtain ⟨hpc, heats⟩ := Prod.mk_inj.1 hpc
    exact of_decide_eq_false heats (hall ['1'] 0 squareRun.dropLast c .one hc hpc)
  · intro hall
    have h : (main.run (initial ['1'] 0) squareRun).map
        (fun c => c.game.one.score + c.game.two.score) = some 2 := by decide +kernel
    have hstored : (main.log stored (initial ['1'] 0) squareRun).length = 1 := by decide +kernel
    obtain ⟨c, hc, hpoints⟩ := Option.map_eq_some_iff.1 h
    have hle := hall ['1'] 0 squareRun c hc
    omega

end Run

end UsbJoystick.Snake
