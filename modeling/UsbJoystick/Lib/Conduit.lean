import UsbJoystick.Lib.Machine

/-!
Lossy conduits: stages that may lose items, and do nothing else to them.

A stage holds some items that it has taken in and not given out yet, oldest first. In a step it
takes in `inp` and gives out `out`; it invents, duplicates and reorders nothing when what it
gives out and keeps is a sublist of what it had and took in (`Flow`). The rule composes in time
(`Flow.log`: the same relation holds between everything a run takes in and everything it gives
out) and in space (`Flow.series`: two stages of which the second takes in what the first gives
out are one stage). So a chain of any length is correct as soon as every stage is, whatever the
order in which the stages take their steps. `Pipe` is the same for stages that lose nothing.
-/

namespace UsbJoystick.Lib

universe u v w

variable {α : Type u}

/-- A step of a stage that holds `held`, takes in `inp`, gives out `out` and then holds
`held'`. -/
def Flow (held inp out held' : List α) : Prop := (out ++ held').Sublist (held ++ inp)

namespace Flow

variable {a a' b b' inp mid out : List α} {x : α}

lemma idle : Flow a [] [] a := by simp [Flow]

lemma lose (h : a'.Sublist a) : Flow a [] [] a' := by simpa [Flow] using h

lemma eraseIdx (i : ℕ) : Flow a [] [] (a.eraseIdx i) := lose (List.eraseIdx_sublist a i)

lemma enqueue : Flow a inp [] (a ++ inp) := List.Sublist.refl _

lemma dequeue : Flow (x :: a) [] [x] a := by simp [Flow]

lemma flush : Flow a [] a [] := by simp [Flow]

/-- What is taken in may replace what was held. -/
lemma replace (h : a'.Sublist inp) : Flow a inp [] a' := h.trans (List.sublist_append_right a inp)

/-- Items are lost on leaving. -/
lemma lose_out {out' : List α} (h : Flow a inp out a') (ho : out'.Sublist out) :
    Flow a inp out' a' := (ho.append_right a').trans h

/-- **Stages in series**: the second stage takes in what the first one gives out, and holds the
older items. -/
theorem series (h₁ : Flow a inp mid a') (h₂ : Flow b mid out b') :
    Flow (b ++ a) inp out (b' ++ a') := by
  unfold Flow at *
  have hsecond : (out ++ b' ++ a').Sublist (b ++ mid ++ a') := h₂.append_right a'
  have hfirst : (b ++ (mid ++ a')).Sublist (b ++ (a ++ inp)) := h₁.append_left b
  rw [List.append_assoc, List.append_assoc] at hsecond
  rw [List.append_assoc]
  exact hsecond.trans hfirst

theorem andThen {a'' inp' out' : List α} (h₁ : Flow a inp out a') (h₂ : Flow a' inp' out' a'') :
    Flow a (inp ++ inp') (out ++ out') a'' := by
  unfold Flow at *
  have hsecond : (out ++ (out' ++ a'')).Sublist (out ++ (a' ++ inp')) := h₂.append_left out
  have hfirst : (out ++ a' ++ inp').Sublist (a ++ inp ++ inp') := h₁.append_right inp'
  rw [List.append_assoc] at hfirst
  rw [List.append_assoc, ← List.append_assoc a]
  exact hsecond.trans hfirst

/-- **A run is a flow if all its steps are.** -/
theorem log {σ : Type v} {ι : Type w} {M : Machine σ ι} (held : σ → List α)
    {inp out : σ → ι → List α} {s₀ s : σ} {es : List ι}
    (keep : ∀ s e s', M.step s e = some s' → Flow (held s) (inp s e) (out s e) (held s'))
    (h : M.run s₀ es = some s) :
    Flow (held s₀) (M.log inp s₀ es) (M.log out s₀ es) (held s) := by
  refine Machine.run_induction (P := fun es s =>
    Flow (held s₀) (M.log inp s₀ es) (M.log out s₀ es) (held s)) idle ?_ h
  intro es s e s' hrun hflow hstep
  rw [Machine.log_snoc inp hrun, Machine.log_snoc out hrun]
  exact hflow.andThen (keep s e s' hstep)

/-- What a stage that starts empty gives out is a sublist of what it takes in. -/
lemma sublist (h : Flow [] inp out a) : out.Sublist inp :=
  (List.sublist_append_left out a).trans h

end Flow

/-! ### Stages that lose nothing -/

/-- A step of a stage that does not lose anything either. -/
def Pipe (held inp out held' : List α) : Prop := out ++ held' = held ++ inp

namespace Pipe

variable {a a' b b' inp mid out : List α} {x : α}

lemma flow (h : Pipe a inp out a') : Flow a inp out a' := by
  unfold Flow
  rw [show out ++ a' = a ++ inp from h]

lemma idle : Pipe a [] [] a := by simp [Pipe]

lemma enqueue : Pipe a inp [] (a ++ inp) := rfl

lemma dequeue : Pipe (x :: a) [] [x] a := by simp [Pipe]

theorem series (h₁ : Pipe a inp mid a') (h₂ : Pipe b mid out b') :
    Pipe (b ++ a) inp out (b' ++ a') := by
  unfold Pipe at *
  rw [← List.append_assoc, h₂, List.append_assoc, h₁, List.append_assoc]

theorem andThen {a'' inp' out' : List α} (h₁ : Pipe a inp out a') (h₂ : Pipe a' inp' out' a'') :
    Pipe a (inp ++ inp') (out ++ out') a'' := by
  unfold Pipe at *
  rw [List.append_assoc, h₂, ← List.append_assoc, h₁, List.append_assoc]

/-- A run whose steps all meet the condition `C` loses nothing if such steps do not. -/
theorem log {σ : Type v} {ι : Type w} {M : Machine σ ι} (held : σ → List α)
    {inp out : σ → ι → List α} {C : σ → ι → Prop} {s₀ s : σ} {es : List ι}
    (keep : ∀ es s e s', M.run s₀ es = some s → C s e → M.step s e = some s' →
      Pipe (held s) (inp s e) (out s e) (held s'))
    (hC : M.Along C s₀ es) (h : M.run s₀ es = some s) :
    Pipe (held s₀) (M.log inp s₀ es) (M.log out s₀ es) (held s) := by
  refine Machine.along_induction (P := fun es s =>
    Pipe (held s₀) (M.log inp s₀ es) (M.log out s₀ es) (held s)) idle ?_ hC h
  intro es s e s' hrun hpipe he hstep
  rw [Machine.log_snoc inp hrun, Machine.log_snoc out hrun]
  exact hpipe.andThen (keep es s e s' hrun he hstep)

end Pipe

end UsbJoystick.Lib
