import Mathlib.Data.List.Chain
import Mathlib.Tactic

/-!
Walks on a two-coloured graph.

A walk that changes colour at every step can come back to a place after an even number of steps
only. If it never goes straight back, two steps are not enough either.
-/

namespace UsbJoystick.Lib

universe u

variable {α : Type u} {colour : α → Bool} {l : List α}

/-- The places of the list have alternating colours. -/
def Alternates (colour : α → Bool) (l : List α) : Prop :=
  l.IsChain fun a b => colour b = !colour a

/-- No place of the list is the one two steps before. -/
def NoReturn (l : List α) : Prop := ∀ i (h : i + 2 < l.length), l[i] ≠ l[i + 2]

lemma Alternates.colour_add (h : Alternates colour l) (i k : ℕ) (hk : i + k < l.length) :
    colour l[i + k] = (colour l[i] ^^ decide (k % 2 = 1)) := by
  induction k with
  | zero => simp
  | succ k ih =>
    have hstep : colour l[i + k + 1] = !colour l[i + k] := List.IsChain.getElem h (i + k) hk
    have hodd : decide ((k + 1) % 2 = 1) = !decide (k % 2 = 1) := by
      rw [← decide_not]
      exact decide_eq_decide.2 (by omega)
    rw [show l[i + (k + 1)] = l[i + k + 1] from rfl, hstep, ih (by omega), hodd, Bool.xor_not]

/-- **A walk comes back after an even number of steps, and at least four.** -/
theorem Alternates.even_and_four_le (h : Alternates colour l) (hret : NoReturn l) {i j : ℕ}
    (hij : i < j) (hj : j < l.length) (heq : l[i] = l[j]) : Even (j - i) ∧ 4 ≤ j - i := by
  obtain ⟨k, rfl⟩ : ∃ k, j = i + k := ⟨j - i, by omega⟩
  have hcolour := h.colour_add i k hj
  rw [← heq] at hcolour
  have hk : k % 2 ≠ 1 := by
    intro hk
    simp [hk] at hcolour
  have htwo : k ≠ 2 := by
    rintro rfl
    exact hret i hj heq
  rw [Nat.add_sub_cancel_left, Nat.even_iff]
  omega

end UsbJoystick.Lib
