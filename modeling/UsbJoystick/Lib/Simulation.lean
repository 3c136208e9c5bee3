import UsbJoystick.Lib.Machine

/-!
A machine that another one follows.

The states of `M` and of `N` are related by `R`, and what `M` does in one step on the input `e`,
`N` does on the inputs `tr s e`, which may be none or several. Then `N` follows every run of `M`
(`run_sim`), on the inputs that the steps of the run have been translated to, one after the other.
What an observer of `N` writes down along the way is what an observer of `M` does, if it is so for
every step (`log_sim`). So a theorem about the runs of `N` holds of the runs of `M`. When the
two take their steps together and also stop together, neither has a run that the other has not;
`run_rel` says this of two machines of which the first may also stop for a reason of its own.
-/

namespace UsbJoystick.Lib

namespace Machine

section Simulation

variable {σ ι τ κ β : Type*} {M : Machine σ ι} {N : Machine τ κ} {R : σ → τ → Prop}
  {tr : σ → ι → List κ} {s₀ s : σ} {t₀ : τ} {es : List ι}

/-- **The simulation rule**, for the runs whose steps all meet the condition `C`. -/
theorem run_sim_along {C : σ → ι → Prop} (keep : ∀ s t e s', R s t → C s e →
      M.step s e = some s' → ∃ t', N.run t (tr s e) = some t' ∧ R s' t')
    (hR : R s₀ t₀) (hC : M.Along C s₀ es) (h : M.run s₀ es = some s) :
    ∃ t, N.run t₀ (M.log tr s₀ es) = some t ∧ R s t := by
  refine along_induction (P := fun es s => ∃ t, N.run t₀ (M.log tr s₀ es) = some t ∧ R s t)
    ⟨t₀, rfl, hR⟩ ?_ hC h
  intro es s e s' hrun ⟨t, ht, hst⟩ hCe hstep
  obtain ⟨t', ht', hst'⟩ := keep s t e s' hst hCe hstep
  refine ⟨t', ?_, hst'⟩
  rw [log_snoc tr hrun, run_append, ht]
  exact ht'

/-- What is observed of a run is what is observed of the run that follows it. -/
theorem log_sim_along {C : σ → ι → Prop} {out : σ → ι → List β} {out' : τ → κ → List β}
    (keep : ∀ s t e s', R s t → C s e → M.step s e = some s' →
      ∃ t', N.run t (tr s e) = some t' ∧ R s' t')
    (same : ∀ s t e s', R s t → C s e → M.step s e = some s' →
      N.log out' t (tr s e) = out s e)
    (hR : R s₀ t₀) (hC : M.Along C s₀ es) (h : M.run s₀ es = some s) :
    N.log out' t₀ (M.log tr s₀ es) = M.log out s₀ es := by
  refine along_induction (P := fun es _ => M.Along C s₀ es →
    N.log out' t₀ (M.log tr s₀ es) = M.log out s₀ es) (fun _ => rfl) ?_ hC h hC
  intro es s e s' hrun ih hCe hstep hC
  have hC := ((along_snoc hrun).1 hC).1
  obtain ⟨t, ht, hst⟩ := run_sim_along keep hR hC hrun
  rw [log_snoc tr hrun, log_snoc out hrun, log_append out' ht, ih hC, same s t e s' hst hCe hstep]

/-- What holds of the steps of a run that follows another one. -/
theorem along_sim_along {C : σ → ι → Prop} {C' : τ → κ → Prop}
    (keep : ∀ s t e s', R s t → C s e → M.step s e = some s' →
      ∃ t', N.run t (tr s e) = some t' ∧ R s' t')
    (same : ∀ s t e s', R s t → C s e → M.step s e = some s' → N.Along C' t (tr s e))
    (hR : R s₀ t₀) (hC : M.Along C s₀ es) (h : M.run s₀ es = some s) :
    N.Along C' t₀ (M.log tr s₀ es) := by
  refine along_induction (P := fun es _ => M.Along C s₀ es →
    N.Along C' t₀ (M.log tr s₀ es)) (fun _ x hx => by cases hx) ?_ hC h hC
  intro es s e s' hrun ih hCe hstep hC
  have hC := ((along_snoc hrun).1 hC).1
  obtain ⟨t, ht, hst⟩ := run_sim_along keep hR hC hrun
  rw [log_snoc tr hrun, along_append ht]
  exact ⟨ih hC, same s t e s' hst hCe hstep⟩

/-- The simulation rule for all runs. -/
theorem run_sim (keep : ∀ s t e s', R s t → M.step s e = some s' →
      ∃ t', N.run t (tr s e) = some t' ∧ R s' t')
    (hR : R s₀ t₀) (h : M.run s₀ es = some s) :
    ∃ t, N.run t₀ (M.log tr s₀ es) = some t ∧ R s t :=
  run_sim_along (C := fun _ _ => True) (fun s t e s' hst _ => keep s t e s' hst) hR
    (fun _ _ => trivial) h

theorem log_sim {out : σ → ι → List β} {out' : τ → κ → List β}
    (keep : ∀ s t e s', R s t → M.step s e = some s' →
      ∃ t', N.run t (tr s e) = some t' ∧ R s' t')
    (same : ∀ s t e s', R s t → M.step s e = some s' → N.log out' t (tr s e) = out s e)
    (hR : R s₀ t₀) (h : M.run s₀ es = some s) :
    N.log out' t₀ (M.log tr s₀ es) = M.log out s₀ es :=
  log_sim_along (C := fun _ _ => True) (fun s t e s' hst _ => keep s t e s' hst)
    (fun s t e s' hst _ => same s t e s' hst) hR (fun _ _ => trivial) h

/-- A condition on the steps of a run holds of the run that follows it. -/
theorem along_sim {C : σ → ι → Prop} {C' : τ → κ → Prop}
    (keep : ∀ s t e s', R s t → M.step s e = some s' →
      ∃ t', N.run t (tr s e) = some t' ∧ R s' t')
    (same : ∀ s t e s', R s t → M.step s e = some s' → C s e → N.Along C' t (tr s e))
    (hR : R s₀ t₀) (hC : M.Along C s₀ es) (h : M.run s₀ es = some s) :
    N.Along C' t₀ (M.log tr s₀ es) :=
  along_sim_along (fun s t e s' hst _ => keep s t e s' hst)
    (fun s t e s' hst hCe hstep => same s t e s' hst hstep hCe) hR hC h

/-- **The lockstep rule**: two machines take related steps on corresponding inputs, or stop
together, along all runs, unless the first has met with a step that faults. -/
theorem run_rel {f : ι → κ} {F : σ → ι → Prop}
    (keep : ∀ s t e, R s t → Option.Rel R (M.step s e) (N.step t (f e)) ∨
      M.step s e = none ∧ F s e) (hR : R s₀ t₀) :
    Option.Rel R (M.run s₀ es) (N.run t₀ (es.map f)) ∨
      M.run s₀ es = none ∧ ∃ x ∈ M.trace s₀ es, F x.1 x.2 := by
  induction es generalizing s₀ t₀ with
  | nil => exact Or.inl (Option.Rel.some hR)
  | cons e es ih =>
    simp only [List.map_cons, run, trace]
    rcases keep s₀ t₀ e hR with hrel | ⟨hnone, hF⟩
    · generalize M.step s₀ e = s', N.step t₀ (f e) = t' at hrel
      cases hrel with
      | none => exact Or.inl Option.Rel.none
      | some h =>
        rcases ih h with hrel | ⟨hnone, x, hx, hF⟩
        · exact Or.inl hrel
        · exact Or.inr ⟨hnone, x, List.mem_cons_of_mem _ hx, hF⟩
    · exact Or.inr ⟨by rw [hnone]; rfl, _, List.mem_cons_self, hF⟩

end Simulation

end Machine

end UsbJoystick.Lib
