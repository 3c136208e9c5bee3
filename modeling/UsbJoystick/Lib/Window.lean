import Mathlib.Data.List.DropRight
import Mathlib.Tactic

/-!
A window of some width at the end of a growing history.

The history `past` only ever grows at its end; the window shows its last `width` entries
(`seen`). Sliding appends an entry, so the window loses the oldest entry it showed; widening
by one shows that entry again, as long as the history is long enough. `edge` is the entry just
outside the window, which is the one a widening brings back.
-/

namespace UsbJoystick.Lib

universe u

/-- A history and the width of a window at its end; the history fills the window. -/
structure Window (α : Type u) where
  past : List α -- the history, oldest entry first
  width : ℕ -- how many entries the window shows
  full : width ≤ past.length -- the window is full

namespace Window

variable {α : Type u}

def seen (w : Window α) : List α := w.past.rtake w.width

def slide (w : Window α) (q : α) : Window α where
  past := w.past ++ [q]
  width := w.width
  full := by simpa using Nat.le_succ_of_le w.full

/-- The entry just outside the window, if there is one. -/
def edge (w : Window α) : Option α := (w.past.rdrop w.width).getLast?

def widen (w : Window α) (h : w.width < w.past.length) : Window α where
  past := w.past
  width := w.width + 1
  full := h

variable (w : Window α) (q : α)

lemma seen_length : w.seen.length = w.width := by
  have := w.full
  simp [seen, List.rtake]
  omega

lemma mem_past_of_mem_seen {a : α} (h : a ∈ w.seen) : a ∈ w.past := List.mem_of_mem_drop h

lemma rdrop_append_seen : w.past.rdrop w.width ++ w.seen = w.past := by
  simp [seen, List.rdrop, List.rtake]

lemma getLast?_seen (h : 0 < w.width) : w.seen.getLast? = w.past.getLast? := by
  have hne : w.seen ≠ [] := by
    have := w.seen_length
    exact List.ne_nil_of_length_pos (by omega)
  rw [← w.rdrop_append_seen, List.getLast?_append_of_ne_nil _ hne]

/-- Sliding pushes the oldest entry out of the window. -/
lemma seen_slide (h : 0 < w.width) : (w.slide q).seen = w.seen.tail ++ [q] := by
  obtain ⟨n, hn⟩ : ∃ n, w.width = n + 1 := ⟨w.width - 1, by omega⟩
  have hfull := w.full
  simp only [seen, slide, hn, List.rtake_concat_succ]
  congr 1
  rw [List.rtake, List.rtake, List.tail_drop]
  congr 1
  omega

/-- After sliding, the entry just outside is the one the window showed first. -/
lemma edge_slide (h : 0 < w.width) : (w.slide q).edge = w.seen.head? := by
  obtain ⟨n, hn⟩ : ∃ n, w.width = n + 1 := ⟨w.width - 1, by omega⟩
  have hfull := w.full
  simp only [edge, seen, slide, hn, List.rdrop_concat_succ]
  have hlt : w.past.length - (n + 1) < w.past.length := by omega
  rw [List.rtake, List.head?_drop, List.rdrop, List.getLast?_eq_getElem?, List.length_take,
    Nat.min_eq_left (by omega), List.getElem?_take_of_lt (by omega)]
  congr 1

/-- Widening brings the entry just outside back into the window. -/
lemma seen_widen (h : w.width < w.past.length) {a : α} (ha : w.edge = some a) :
    (w.widen h).seen = a :: w.seen := by
  have hcut : w.past.rdrop w.width = w.past.rdrop (w.width + 1) ++ [a] := by
    have hne : w.past.rdrop w.width ≠ [] :=
      List.ne_nil_of_length_pos (by simp [List.rdrop]; omega)
    have hlast : (w.past.rdrop w.width).getLast hne = a := by
      simpa [edge, List.getLast?_eq_some_getLast hne] using ha
    conv_lhs => rw [← List.dropLast_append_getLast hne, hlast]
    congr 1
    rw [List.rdrop, List.rdrop, List.dropLast_eq_take, List.take_take, List.length_take]
    congr 1
    omega
  have hsplit := w.rdrop_append_seen
  have hsplit' := (w.widen h).rdrop_append_seen
  simp only [widen] at hsplit'
  rw [hcut, List.append_assoc] at hsplit
  exact List.append_cancel_left (hsplit'.trans hsplit.symm)

/-- The entry just outside exists exactly when the window can be widened. -/
lemma lt_length_of_edge {a : α} (ha : w.edge = some a) : w.width < w.past.length := by
  by_contra hlt
  have hnil : w.past.rdrop w.width = [] := by simp [List.rdrop]; omega
  simp [edge, hnil] at ha

end Window

end UsbJoystick.Lib
