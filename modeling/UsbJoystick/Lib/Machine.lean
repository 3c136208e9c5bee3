import Mathlib.Tactic

/-!
Machines that read one input a step, and what can be proved about their runs.

A machine is a partial step function `σ → ι → Option σ`: the inputs are everything the machine
does not decide itself (an answer of the environment, which of several threads moves, an
interrupt), and `none` means that it cannot go on. Nothing is assumed of the inputs, so a
statement about every list of inputs is a statement about every run.

* `run` is the state after a list of inputs, `trace` the steps taken on the way, and `log` what
  an observer writes down who sees every step; a ghost variable is a `log`.
* `Until` is a run that stops at the first state of some kind.
* `run_induction` is the one induction over runs; `run_inv` and `log_inv` are the invariant rule
  and the history rule that follow from it, and `along_induction` is the same for the runs whose
  steps all meet a condition. `forall_runs_iff_along` is for a condition that is exact.
* `run_rounds` is for a schedule whose rounds all make progress.
* `run_induction₂` compares two runs step by step, and `run_map` and `log_map` two machines whose
  states correspond.
-/

namespace UsbJoystick.Lib

universe u v w

/-- A machine with states `σ` that reads one input of `ι` at every step. -/
structure Machine (σ : Type u) (ι : Type v) where
  step : σ → ι → Option σ

namespace Machine

variable {σ : Type u} {ι : Type v} {β : Type w} (M : Machine σ ι)

/-- The state after the inputs `es`. -/
def run : σ → List ι → Option σ
  | s, [] => some s
  | s, e :: es => (M.step s e).bind fun s' => run s' es

/-- The steps taken on the inputs `es`: the state before each step, and the input it reads. -/
def trace : σ → List ι → List (σ × ι)
  | _, [] => []
  | s, e :: es => (s, e) :: (M.step s e).elim [] fun s' => trace s' es

/-- What an observer of the single steps writes down along the inputs `es`. -/
def log (out : σ → ι → List β) (s : σ) (es : List ι) : List β :=
  (M.trace s es).flatMap fun x => out x.1 x.2

/-- Every step taken on the inputs `es` meets the condition `C`. -/
def Along (C : σ → ι → Prop) (s : σ) (es : List ι) : Prop :=
  ∀ x ∈ M.trace s es, C x.1 x.2

/-- The inputs `es` take the machine from `s` to `t`, the first state on the way that is in `A`. -/
def Until (A : σ → Prop) (s : σ) (es : List ι) (t : σ) : Prop :=
  M.run s es = some t ∧ A t ∧ ∀ x ∈ M.trace s es, ¬ A x.1

/-! ### One more input -/

section Basic

variable {M} {s t : σ} {e : ι} {es fs : List ι}

@[simp] lemma run_nil : M.run s [] = some s := rfl

@[simp] lemma trace_nil : M.trace s [] = [] := rfl

@[simp] lemma log_nil (out : σ → ι → List β) : M.log out s [] = [] := rfl

lemma run_append : M.run s (es ++ fs) = (M.run s es).bind fun t => M.run t fs := by
  induction es generalizing s with
  | nil => rfl
  | cons e es ih =>
    simp only [List.cons_append, run]
    cases M.step s e with
    | none => rfl
    | some s' => exact ih

lemma run_snoc : M.run s (es ++ [e]) = (M.run s es).bind fun t => M.step t e := by
  rw [run_append]
  refine congrArg _ (funext fun t => ?_)
  simp [run]

lemma run_snoc_eq_some : M.run s (es ++ [e]) = some t ↔
    ∃ t', M.run s es = some t' ∧ M.step t' e = some t := by
  rw [run_snoc, Option.bind_eq_some_iff]

lemma trace_append (h : M.run s es = some t) :
    M.trace s (es ++ fs) = M.trace s es ++ M.trace t fs := by
  induction es generalizing s with
  | nil =>
    obtain rfl : s = t := by simpa using h
    rfl
  | cons e' es ih =>
    obtain ⟨s', hs', ht⟩ := Option.bind_eq_some_iff.1 (show (M.step s e').bind _ = some t from h)
    simp [trace, hs', ih ht]

lemma trace_snoc (h : M.run s es = some t) : M.trace s (es ++ [e]) = M.trace s es ++ [(t, e)] := by
  rw [trace_append h]
  cases hstep : M.step t e <;> simp [trace, hstep]

lemma log_append (out : σ → ι → List β) (h : M.run s es = some t) :
    M.log out s (es ++ fs) = M.log out s es ++ M.log out t fs := by
  simp [log, trace_append h]

lemma log_snoc (out : σ → ι → List β) (h : M.run s es = some t) :
    M.log out s (es ++ [e]) = M.log out s es ++ out t e := by
  simp [log, trace_snoc h]

lemma mem_of_mem_trace {x : σ × ι} (h : x ∈ M.trace s es) : x.2 ∈ es := by
  induction es generalizing s with
  | nil => cases h
  | cons e es ih =>
    rcases List.mem_cons.1 h with rfl | h
    · exact List.mem_cons_self
    · cases hstep : M.step s e with
      | none => simp [hstep] at h
      | some s' => exact List.mem_cons_of_mem _ (ih (by simpa [hstep] using h))

/-- An observer who is not interested in any of the inputs writes nothing down. -/
lemma log_eq_nil {out : σ → ι → List β} (h : ∀ e ∈ es, ∀ s, out s e = []) : M.log out s es = [] :=
  List.flatMap_eq_nil_iff.2 fun x hx => h x.2 (mem_of_mem_trace hx) x.1

lemma log_singleton (out : σ → ι → List β) : M.log out s [e] = out s e :=
  (log_snoc out (run_nil (M := M) (s := s))).trans (List.nil_append _)

lemma along_append {C : σ → ι → Prop} (h : M.run s es = some t) :
    M.Along C s (es ++ fs) ↔ M.Along C s es ∧ M.Along C t fs := by
  simp [Along, trace_append h, or_imp, forall_and]

lemma along_snoc {C : σ → ι → Prop} (h : M.run s es = some t) :
    M.Along C s (es ++ [e]) ↔ M.Along C s es ∧ C t e := by
  simp [Along, trace_snoc h, or_imp, forall_and]

lemma along_singleton {C : σ → ι → Prop} : M.Along C s [e] ↔ C s e := by
  cases hstep : M.step s e <;> simp [Along, trace, hstep]

end Basic

/-! ### Induction over runs -/

section Induction

variable {M} {s₀ s : σ} {es : List ι}

/-- **Induction over a run**, on its last step. -/
theorem run_induction {P : List ι → σ → Prop} (nil : P [] s₀)
    (snoc : ∀ es s e s', M.run s₀ es = some s → P es s → M.step s e = some s' → P (es ++ [e]) s')
    (h : M.run s₀ es = some s) : P es s := by
  induction es using List.reverseRecOn generalizing s with
  | nil =>
    have hs : s₀ = s := by simpa using h
    exact hs ▸ nil
  | append_singleton es e ih =>
    obtain ⟨t, ht, hstep⟩ := run_snoc_eq_some.1 h
    exact snoc es t e s ht (ih ht) hstep

/-- **The invariant rule.** What holds at the start and is kept by every step holds in every
state reached. -/
theorem run_inv {I : σ → Prop} (init : I s₀)
    (keep : ∀ s e s', I s → M.step s e = some s' → I s') (h : M.run s₀ es = some s) : I s :=
  run_induction (P := fun _ s => I s) init (fun _ s e s' _ hi hs => keep s e s' hi hs) h

/-- **The history rule**: an invariant between the state and what an observer has written down. -/
theorem log_inv {out : σ → ι → List β} {R : List β → σ → Prop} (init : R [] s₀)
    (keep : ∀ l s e s', R l s → M.step s e = some s' → R (l ++ out s e) s')
    (h : M.run s₀ es = some s) : R (M.log out s₀ es) s := by
  refine run_induction (P := fun es s => R (M.log out s₀ es) s) init ?_ h
  intro es s e s' hrun hR hstep
  rw [log_snoc out hrun]
  exact keep _ s e s' hR hstep

/-- Induction over the runs whose steps all meet the condition `C`. -/
theorem along_induction {C : σ → ι → Prop} {P : List ι → σ → Prop} (nil : P [] s₀)
    (snoc : ∀ es s e s', M.run s₀ es = some s → P es s → C s e → M.step s e = some s' →
      P (es ++ [e]) s')
    (hC : M.Along C s₀ es) (h : M.run s₀ es = some s) : P es s := by
  refine run_induction (P := fun es s => M.Along C s₀ es → P es s) (fun _ => nil) ?_ h hC
  intro es s e s' hrun hP hstep hC
  obtain ⟨hC, hCe⟩ := (along_snoc hrun).1 hC
  exact snoc es s e s' hrun (hP hC) hCe hstep

/-- What holds at the start, and is kept by a step exactly when the step meets the condition `C`,
holds all along a run exactly when all its steps meet `C`. -/
theorem forall_runs_iff_along {I : List ι → σ → Prop} {C : σ → ι → Prop} (init : I [] s₀)
    (keep : ∀ es s e s', M.run s₀ es = some s → I es s → M.step s e = some s' →
      (I (es ++ [e]) s' ↔ C s e))
    (h : M.run s₀ es = some s) :
    (∀ es' s', es' <+: es → M.run s₀ es' = some s' → I es' s') ↔ M.Along C s₀ es := by
  refine run_induction (P := fun es _ =>
    (∀ es' s', es' <+: es → M.run s₀ es' = some s' → I es' s') ↔ M.Along C s₀ es) ?_ ?_ h
  · refine iff_of_true ?_ (by simp [Along])
    intro es' s' hes' hrun
    obtain rfl := List.prefix_nil.1 hes'
    exact Option.some_inj.1 hrun ▸ init
  · intro es s e s' hrun ih hstep
    have hrun' : M.run s₀ (es ++ [e]) = some s' := run_snoc_eq_some.2 ⟨s, hrun, hstep⟩
    rw [along_snoc hrun, ← ih]
    constructor
    · intro hall
      have hbefore : ∀ es' s', es' <+: es → M.run s₀ es' = some s' → I es' s' :=
        fun es' s' hes' => hall es' s' (hes'.trans (List.prefix_append es [e]))
      exact ⟨hbefore, (keep es s e s' hrun (hbefore es s (List.prefix_refl es) hrun) hstep).1
        (hall _ s' (List.prefix_refl _) hrun')⟩
    · rintro ⟨hbefore, hC⟩ es' t hes' ht
      rcases List.prefix_concat_iff.1 hes' with rfl | hes'
      · obtain rfl : s' = t := Option.some_inj.1 (hrun'.symm.trans ht)
        exact (keep es s e s' hrun (hbefore es s (List.prefix_refl es) hrun) hstep).2 hC
      · exact hbefore es' t hes' ht

/-- The same for a property of the states. -/
theorem forall_states_iff_along {I : σ → Prop} {C : σ → ι → Prop} (init : I s₀)
    (keep : ∀ es s e s', M.run s₀ es = some s → I s → M.step s e = some s' → (I s' ↔ C s e))
    (h : M.run s₀ es = some s) :
    (∀ es' s', es' <+: es → M.run s₀ es' = some s' → I s') ↔ M.Along C s₀ es :=
  forall_runs_iff_along (I := fun _ s => I s) init keep h

/-- **The rule of rounds.** A rank that goes down in every round of a schedule, until it is 0, is 0
after as many rounds. -/
theorem run_rounds {I : σ → Prop} (rank : σ → ℕ) (rs : List (List ι))
    (keep : ∀ s, I s → ∀ r ∈ rs, ∃ s', M.run s r = some s' ∧ I s' ∧ rank s' ≤ rank s - 1)
    (hs : I s) (hlong : rank s ≤ rs.length) :
    ∃ s', M.run s rs.flatten = some s' ∧ I s' ∧ rank s' = 0 := by
  induction rs generalizing s with
  | nil => exact ⟨s, rfl, hs, Nat.le_zero.1 hlong⟩
  | cons r rs ih =>
    obtain ⟨s', hrun, hs', hrank⟩ := keep s hs r List.mem_cons_self
    rw [List.length_cons] at hlong
    obtain ⟨t, ht, hI, h0⟩ := ih (fun s hs r hr => keep s hs r (List.mem_cons_of_mem _ hr)) hs'
      (by omega)
    refine ⟨t, ?_, hI, h0⟩
    rw [List.flatten_cons, run_append, hrun]
    exact ht

/-- Induction over two runs of the same length, on the last step of both. -/
theorem run_induction₂ {t₀ t : σ} {fs : List ι} {P : List ι → σ → List ι → σ → Prop}
    (nil : P [] s₀ [] t₀)
    (snoc : ∀ es s e s' fs t f t', M.run s₀ es = some s → M.run t₀ fs = some t → P es s fs t →
      M.step s e = some s' → M.step t f = some t' → P (es ++ [e]) s' (fs ++ [f]) t')
    (hes : M.run s₀ es = some s) (hfs : M.run t₀ fs = some t) (hlen : es.length = fs.length) :
    P es s fs t := by
  induction es using List.reverseRecOn generalizing s fs t with
  | nil =>
    obtain rfl : fs = [] := List.eq_nil_of_length_eq_zero hlen.symm
    obtain rfl : s₀ = s := by simpa using hes
    obtain rfl : t₀ = t := by simpa using hfs
    exact nil
  | append_singleton es e ih =>
    rcases List.eq_nil_or_concat fs with rfl | ⟨fs, f, rfl⟩
    · simp at hlen
    · rw [List.concat_eq_append] at hfs hlen ⊢
      obtain ⟨s', hs', hstep⟩ := run_snoc_eq_some.1 hes
      obtain ⟨t', ht', hstep'⟩ := run_snoc_eq_some.1 hfs
      exact snoc es s' e s fs t' f t hs' ht' (ih hs' ht' (by simpa using hlen)) hstep hstep'

end Induction

/-! ### Machines that do the same on corresponding states -/

section Map

variable {M} {τ : Type*} {N : Machine τ ι} {f : σ → τ} {I : σ → Prop} {s : σ} {es : List ι}

/-- If `f` takes the steps of `M` to those of `N`, it takes the runs of `M` to those of `N`. -/
theorem run_map (keep : ∀ s e s', I s → M.step s e = some s' → I s')
    (comm : ∀ s e, I s → N.step (f s) e = (M.step s e).map f) (hs : I s) :
    N.run (f s) es = (M.run s es).map f := by
  induction es generalizing s with
  | nil => rfl
  | cons e es ih =>
    simp only [run, comm s e hs]
    cases hstep : M.step s e with
    | none => rfl
    | some s' => exact ih (keep s e s' hs hstep)

/-- What is observed of two corresponding runs is the same if it is the same of every step. -/
theorem log_map {out : σ → ι → List β} {out' : τ → ι → List β}
    (keep : ∀ s e s', I s → M.step s e = some s' → I s')
    (comm : ∀ s e, I s → N.step (f s) e = (M.step s e).map f)
    (same : ∀ s e, I s → out' (f s) e = out s e) (hs : I s) :
    N.log out' (f s) es = M.log out s es := by
  induction es generalizing s with
  | nil => rfl
  | cons e es ih =>
    simp only [log, trace, comm s e hs, List.flatMap_cons, same s e hs]
    cases hstep : M.step s e with
    | none => rfl
    | some s' => exact congrArg _ (ih (keep s e s' hs hstep))

end Map

/-! ### Running up to the first state of some kind -/

section Until

variable {M} {A : σ → Prop} {s t : σ} {e : ι} {es : List ι}

lemma until_nil (h : A s) : M.Until A s [] s := ⟨rfl, h, by simp⟩

lemma Until.eq_of_mem (h : M.Until A s es t) (hs : A s) : t = s := by
  obtain ⟨hrun, -, htrace⟩ := h
  cases es with
  | nil => exact (Option.some_inj.1 hrun).symm
  | cons e es => exact absurd hs (htrace (s, e) (by simp [trace]))

/-- A run to a state that it does not start in begins with a step. -/
lemma Until.exists_step (h : M.Until A s es t) (hs : ¬ A s) :
    ∃ e es' s', M.step s e = some s' ∧ M.Until A s' es' t := by
  obtain ⟨hrun, ht, htrace⟩ := h
  cases es with
  | nil =>
    obtain rfl : s = t := Option.some_inj.1 hrun
    exact absurd ht hs
  | cons e es =>
    obtain ⟨s', hstep, hrun'⟩ := Option.bind_eq_some_iff.1 hrun
    refine ⟨e, es, s', hstep, hrun', ht, fun x hx => htrace x ?_⟩
    simp [trace, hstep, hx]

lemma Until.cons {s' : σ} (hs : ¬ A s) (hstep : M.step s e = some s') (h : M.Until A s' es t) :
    M.Until A s (e :: es) t := by
  obtain ⟨hrun, ht, htrace⟩ := h
  refine ⟨by simp [run, hstep, hrun], ht, fun x hx => ?_⟩
  rcases List.mem_cons.1 (by simpa [trace, hstep] using hx) with rfl | hx
  · exact hs
  · exact htrace x hx

def Leads (M : Machine σ ι) (A : σ → Prop) (s t : σ) : Prop := ∃ es, M.Until A s es t

lemma leads_of_mem (hs : A s) : M.Leads A s t ↔ t = s := by
  constructor
  · rintro ⟨es, h⟩
    exact h.eq_of_mem hs
  · rintro rfl
    exact ⟨[], until_nil hs⟩

/-- A step that does not depend on its input can be taken at once. -/
lemma leads_step [Nonempty ι] {s' : σ} (hs : ¬ A s) (hstep : ∀ e, M.step s e = some s') :
    M.Leads A s t ↔ M.Leads A s' t := by
  constructor
  · rintro ⟨es, h⟩
    obtain ⟨e, es', s'', hstep', h'⟩ := h.exists_step hs
    obtain rfl : s' = s'' := Option.some_inj.1 ((hstep e).symm.trans hstep')
    exact ⟨es', h'⟩
  · rintro ⟨es, h⟩
    obtain ⟨e⟩ := ‹Nonempty ι›
    exact ⟨e :: es, h.cons hs (hstep e)⟩

/-- What holds at the start and is kept by every step outside `A` holds on reaching `A`. -/
theorem Until.inv {I : σ → Prop} (h : M.Until A s es t) (hs : I s)
    (keep : ∀ s e s', I s → ¬ A s → M.step s e = some s' → I s') : I t := by
  induction es generalizing s with
  | nil => exact Option.some_inj.1 h.1 ▸ hs
  | cons e es ih =>
    obtain ⟨hrun, ht, htrace⟩ := h
    obtain ⟨s', hstep, hrun'⟩ := Option.bind_eq_some_iff.1 hrun
    have hA : ¬ A s := htrace (s, e) (by simp [trace])
    refine ih ⟨hrun', ht, fun x hx => htrace x ?_⟩ (keep s e s' hs hA hstep)
    simp [trace, hstep, hx]

end Until

end Machine

end UsbJoystick.Lib
