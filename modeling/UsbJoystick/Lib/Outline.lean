import UsbJoystick.Lib.Machine

/-!
Programs that are interrupted, and rules of pre- and postconditions for them.

A program is a loop over a list of statements. A statement is executed in one go; it says what is to
be done before the statement after it, which is the body of a call or of a branch, or the statement
itself if it has to wait. Between any two statements an interrupt may change the state.

`P.Wp R G Q as s` says of the statements `as` and the state `s` that, however the statements are
executed from there, with interrupts that meet the condition `R`, every statement meets the
condition `G` when it is its turn, and `Q` holds when all are done. The rules are those of
sequential programs, except that what is assumed of the state between two statements has to be kept
by the interrupts (`Stable`). `run_wp` is the rule of the main loop: what holds of its body holds
all along a run.
-/

namespace UsbJoystick.Lib

/-- A main program with statements `α`, that get an answer of type `ι` from outside, and
interrupts `ε`. -/
structure Program (σ α ι ε : Type*) where
  exec : α → ι → σ → List α × σ
  interrupt : ε → σ → σ
  body : List α

namespace Program

variable {σ α ι ε : Type*}

/-- Where the program is, and the state it works on. -/
structure Config (σ α : Type*) where
  todo : List α
  state : σ

inductive Event (ι ε : Type*) where
  | main (i : ι)
  | interrupt (e : ε)
  deriving DecidableEq

variable (P : Program σ α ι ε)

def machine : Machine (Config σ α) (Event ι ε) where
  step c
    | .interrupt e => some { c with state := P.interrupt e c.state }
    | .main i => match c.todo with
      | [] => some { c with todo := P.body }
      | a :: as => some ⟨(P.exec a i c.state).1 ++ as, (P.exec a i c.state).2⟩

variable (R : ε → σ → Prop) (G : α → σ → Prop) (Q : σ → Prop)

/-- Interrupts that meet the condition `R` keep `A`. -/
def Stable (A : σ → Prop) : Prop := ∀ e s, R e s → A s → A (P.interrupt e s)

/-- The events `es`, as far as they belong to the statements `as`, go as they should. -/
def Safe : List (Event ι ε) → List α → σ → Prop
  | [], [], s => Q s
  | [], a :: _, s => G a s
  | .interrupt e :: es, as, s => R e s → Safe es as (P.interrupt e s)
  | .main _ :: _, [], s => Q s
  | .main i :: es, a :: as, s => Safe es ((P.exec a i s).1 ++ as) (P.exec a i s).2

/-- From the state `s`, the statements `as` can be executed as they should, and lead to `Q`. -/
def Wp (as : List α) (s : σ) : Prop := ∀ es, P.Safe R G Q es as s

section Rules

variable {P R G Q} {A B : σ → Prop} {a : α} {as bs : List α} {s : σ} {e : ε}

lemma Wp.post (h : P.Wp R G Q [] s) : Q s := h []

lemma Wp.guard (h : P.Wp R G Q (a :: as) s) : G a s := h []

lemma Wp.exec (h : P.Wp R G Q (a :: as) s) (i : ι) :
    P.Wp R G Q ((P.exec a i s).1 ++ as) (P.exec a i s).2 := fun es => h (.main i :: es)

lemma Wp.interrupt (h : P.Wp R G Q as s) (he : R e s) : P.Wp R G Q as (P.interrupt e s) :=
  fun es => h (.interrupt e :: es) he

/-- **Coinduction**: what every event keeps, and what implies the conditions, implies `Wp`. -/
theorem wp_of_invariant {I : List α → σ → Prop} (post : ∀ s, I [] s → Q s)
    (guard : ∀ a as s, I (a :: as) s → G a s)
    (exec : ∀ a as i s, I (a :: as) s → I ((P.exec a i s).1 ++ as) (P.exec a i s).2)
    (interrupt : ∀ as e s, R e s → I as s → I as (P.interrupt e s)) (h : I as s) :
    P.Wp R G Q as s := by
  intro es
  induction es generalizing as s with
  | nil =>
    cases as with
    | nil => exact post s h
    | cons a as => exact guard a as s h
  | cons e es ih =>
    cases e with
    | interrupt e => exact fun he => ih (interrupt as e s he h)
    | main i =>
      cases as with
      | nil => exact post s h
      | cons a as => exact ih (exec a as i s h)

/-- **Nothing left to do.** -/
theorem wp_nil (hA : P.Stable R A) (hs : A s) (hpost : ∀ s, A s → Q s) : P.Wp R G Q [] s := by
  refine wp_of_invariant (I := fun as s => as = [] ∧ A s) ?_ ?_ ?_ ?_ ⟨rfl, hs⟩
  · exact fun s h => hpost s h.2
  · rintro a as s ⟨⟨⟩, -⟩
  · rintro a as i s ⟨⟨⟩, -⟩
  · exact fun as e s he h => ⟨h.1, hA e s he h.2⟩

/-- **The rule of consequence.** -/
theorem Wp.weaken {G' : α → σ → Prop} (h : P.Wp R G B as s) (hG : ∀ a s, G a s → G' a s)
    (hB : ∀ s, B s → Q s) : P.Wp R G' Q as s := by
  refine wp_of_invariant (I := P.Wp R G B) ?_ ?_ ?_ ?_ h
  · exact fun s h => hB s h.post
  · exact fun a as s h => hG a s h.guard
  · exact fun a as i s h => h.exec i
  · exact fun as e s he h => h.interrupt he

lemma Wp.mono (h : P.Wp R G B as s) (hB : ∀ s, B s → Q s) : P.Wp R G Q as s :=
  h.weaken (fun _ _ => id) hB

/-- **Up to execution.** A condition `I` is kept if one step leads to the execution of statements
after which it holds again, or to the goal. -/
theorem Wp.of_invariant {I : List α → σ → Prop} (post : ∀ s, I [] s → Q s)
    (guard : ∀ a as s, I (a :: as) s → G a s)
    (exec : ∀ a as i s, I (a :: as) s →
      (∃ bs cs, (P.exec a i s).1 ++ as = bs ++ cs ∧ P.Wp R G (I cs) bs (P.exec a i s).2) ∨
        P.Wp R G Q ((P.exec a i s).1 ++ as) (P.exec a i s).2)
    (h : P.Wp R G (I bs) as s) : P.Wp R G Q (as ++ bs) s := by
  refine wp_of_invariant (I := fun l s =>
    (∃ as bs, l = as ++ bs ∧ P.Wp R G (I bs) as s) ∨ P.Wp R G Q l s) ?_ ?_ ?_ ?_
    (Or.inl ⟨as, bs, rfl, h⟩)
  · rintro s (⟨as, bs, hl, h⟩ | h)
    · obtain ⟨rfl, rfl⟩ := List.append_eq_nil_iff.1 hl.symm
      exact post s h.post
    · exact h.post
  · rintro a l s (⟨as, bs, hl, h⟩ | h)
    · cases as with
      | nil =>
        obtain rfl : a :: l = bs := hl
        exact guard a l s h.post
      | cons b as =>
        obtain ⟨rfl, -⟩ := List.cons_eq_cons.1 hl
        exact h.guard
    · exact h.guard
  · rintro a l i s (⟨as, bs, hl, h⟩ | h)
    · cases as with
      | nil =>
        obtain rfl : a :: l = bs := hl
        exact exec a l i s h.post
      | cons b as =>
        obtain ⟨rfl, rfl⟩ := List.cons_eq_cons.1 hl
        exact Or.inl ⟨_, bs, (List.append_assoc _ _ _).symm, h.exec i⟩
    · exact Or.inr (h.exec i)
  · rintro l e s he (⟨as, bs, rfl, h⟩ | h)
    · exact Or.inl ⟨as, bs, rfl, h.interrupt he⟩
    · exact Or.inr (h.interrupt he)

/-- **One statement after another.** -/
theorem Wp.append (h : P.Wp R G B as s) (hB : ∀ s, B s → P.Wp R G Q bs s) :
    P.Wp R G Q (as ++ bs) s := by
  refine Wp.of_invariant (I := P.Wp R G Q) ?_ ?_ ?_ (h.mono hB)
  · exact fun s h => h.post
  · exact fun a as s h => h.guard
  · exact fun a as i s h => Or.inr (h.exec i)

lemma Wp.cons (h : P.Wp R G B [a] s) (hB : ∀ s, B s → P.Wp R G Q bs s) :
    P.Wp R G Q (a :: bs) s := h.append hB

/-- **Statements that keep a condition.** They form a class that also contains what they leave to be
done, apart from statements of which it is known already that they keep it. -/
theorem wp_of_closed (C : α → Prop) (hA : P.Stable R A) (hguard : ∀ a s, C a → A s → G a s)
    (hexec : ∀ a i s, C a → A s → A (P.exec a i s).2 ∧
      ∀ b ∈ (P.exec a i s).1, C b ∨ ∀ s, A s → P.Wp R G A [b] s)
    (has : ∀ a ∈ as, C a ∨ ∀ s, A s → P.Wp R G A [a] s) (hs : A s) : P.Wp R G A as s := by
  show P.Wp R G A ([] ++ as) s
  refine Wp.of_invariant (I := fun as s => (∀ a ∈ as, C a ∨ ∀ s, A s → P.Wp R G A [a] s) ∧ A s)
    ?_ ?_ ?_ (wp_nil hA hs fun s hs => ⟨has, hs⟩)
  · exact fun s h => h.2
  · rintro a as s ⟨has, hs⟩
    rcases has a List.mem_cons_self with ha | ha
    · exact hguard a s ha hs
    · exact (ha s hs).guard
  · rintro a as i s ⟨has, hs⟩
    left
    rcases has a List.mem_cons_self with ha | ha
    · obtain ⟨hs', hbs⟩ := hexec a i s ha hs
      refine ⟨[], _, rfl, wp_nil hA hs' fun s hs => ⟨fun b hb => ?_, hs⟩⟩
      rcases List.mem_append.1 hb with hb | hb
      · exact hbs b hb
      · exact has b (List.mem_cons_of_mem a hb)
    · have hwp := (ha s hs).exec i
      rw [List.append_nil] at hwp
      exact ⟨_, as, rfl, hwp.mono fun s hs => ⟨fun b hb => has b (List.mem_cons_of_mem a hb), hs⟩⟩

lemma wp_of_class (C : α → Prop) (hA : P.Stable R A) (hguard : ∀ a s, C a → A s → G a s)
    (hexec : ∀ a i s, C a → A s → (∀ b ∈ (P.exec a i s).1, C b) ∧ A (P.exec a i s).2)
    (has : ∀ a ∈ as, C a) (hs : A s) : P.Wp R G A as s := by
  refine wp_of_closed C hA hguard (fun a i s ha hs => ?_) (fun a ha => Or.inl (has a ha)) hs
  obtain ⟨hbs, hs'⟩ := hexec a i s ha hs
  exact ⟨hs', fun b hb => Or.inl (hbs b hb)⟩

/-- **Loops.** The loop comes back to the statements in `heads`, with `A` each time. -/
theorem wp_loop (heads : α → Prop) (hA : P.Stable R A) (hguard : ∀ a s, heads a → A s → G a s)
    (hexec : ∀ a i s, heads a → A s →
      (∃ bs b, (P.exec a i s).1 = bs ++ [b] ∧ heads b ∧ P.Wp R G A bs (P.exec a i s).2) ∨
        P.Wp R G Q (P.exec a i s).1 (P.exec a i s).2)
    (ha : heads a) (hs : A s) : P.Wp R G Q [a] s := by
  refine Wp.of_invariant (I := fun l s => (∃ a, l = [a] ∧ heads a) ∧ A s)
    ?_ ?_ ?_ (wp_nil (A := A) hA hs fun s hs => ⟨⟨a, rfl, ha⟩, hs⟩)
  · rintro s ⟨⟨a, ⟨⟩, -⟩, -⟩
  · rintro b as s ⟨⟨a, hb, ha⟩, hs⟩
    obtain ⟨rfl, rfl⟩ := List.cons_eq_cons.1 hb
    exact hguard b s ha hs
  · rintro b as i s ⟨⟨a, hb, ha⟩, hs⟩
    obtain ⟨rfl, rfl⟩ := List.cons_eq_cons.1 hb
    rw [List.append_nil]
    refine (hexec b i s ha hs).imp_left ?_
    rintro ⟨bs, c, hbs, hc, h⟩
    exact ⟨bs, [c], hbs, h.mono fun s hs => ⟨⟨c, rfl, hc⟩, hs⟩⟩

/-- **One statement.** It is executed in a state in which `A` holds. Either it waits, or what it
leaves to be done leads to `Q`. -/
theorem wp_stmt (hA : P.Stable R A) (hs : A s) (hguard : ∀ s, A s → G a s)
    (hexec : ∀ i s, A s → (P.exec a i s).1 = [a] ∧ A (P.exec a i s).2 ∨
      P.Wp R G Q (P.exec a i s).1 (P.exec a i s).2) : P.Wp R G Q [a] s := by
  refine wp_loop (· = a) hA ?_ ?_ rfl hs
  · rintro a s rfl hs
    exact hguard s hs
  · rintro a i s rfl hs
    refine (hexec i s hs).imp_left fun ⟨hwait, hs'⟩ => ⟨[], a, hwait, rfl, ?_⟩
    exact wp_nil hA hs' fun _ => id

end Rules

/-! ### The main loop -/

section Loop

variable {P R G Q} {c c' : Config σ α} {es : List (Event ι ε)}

/-- The interrupts of a run meet the condition `R`. -/
def Meets (R : ε → σ → Prop) (c : Config σ α) : Event ι ε → Prop
  | .main _ => True
  | .interrupt e => R e c.state

/-- An event leads on, if the loop may begin again when there is nothing left to do. -/
lemma Wp.step {e : Event ι ε} (h : P.Wp R G Q c.todo c.state) (he : Meets R c e)
    (hnil : c.todo = [] → P.Wp R G Q P.body c.state) (hstep : P.machine.step c e = some c') :
    P.Wp R G Q c'.todo c'.state := by
  cases e with
  | interrupt e =>
    obtain rfl := Option.some_inj.1 hstep
    exact h.interrupt he
  | main i =>
    obtain ⟨todo, s⟩ := c
    cases todo with
    | nil =>
      obtain rfl := Option.some_inj.1 hstep
      exact hnil rfl
    | cons a as =>
      obtain rfl := Option.some_inj.1 hstep
      exact h.exec i

/-- **The rule of the main loop.** -/
theorem run_wp (hbody : ∀ s, Q s → P.Wp R G Q P.body s) (h : P.Wp R G Q c.todo c.state)
    (hR : P.machine.Along (Meets R) c es) (hrun : P.machine.run c es = some c') :
    P.Wp R G Q c'.todo c'.state := by
  refine Machine.along_induction (P := fun _ c => P.Wp R G Q c.todo c.state) h ?_ hR hrun
  intro _ c e c' _ h he hstep
  refine h.step he (fun hnil => hbody c.state ?_) hstep
  rw [hnil] at h
  exact h.post

/-- The same for a run that does not come to the end of the statements it begins with. -/
theorem run_wp_of_busy (h : P.Wp R G Q c.todo c.state)
    (hR : P.machine.Along (fun c e => Meets R c e ∧ c.todo ≠ []) c es)
    (hrun : P.machine.run c es = some c') : P.Wp R G Q c'.todo c'.state := by
  refine Machine.along_induction (P := fun _ c => P.Wp R G Q c.todo c.state) h ?_ hR hrun
  intro _ c e c' _ h he hstep
  exact h.step he.1 (fun hnil => absurd hnil he.2) hstep

end Loop

end Program

end UsbJoystick.Lib
