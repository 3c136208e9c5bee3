import Mathlib.Tactic

/-!
Streams of records that begin with their own length.

`records` cuts a stream into its records, or fails; it accepts exactly the concatenations of
records, and then gives these (`records_eq_some_iff`).
-/

namespace UsbJoystick.Lib

universe u

variable {α : Type u} (len : α → ℕ)

/-- The first item says how many there are. -/
def IsRecord : List α → Prop
  | [] => False
  | x :: xs => len x = xs.length + 1

/-- The first `n` records of a stream that has no more. -/
def cut : ℕ → List α → Option (List (List α))
  | _, [] => some []
  | 0, _ :: _ => none
  | n + 1, x :: xs =>
    if 0 < len x ∧ len x ≤ xs.length + 1 then
      (cut n ((x :: xs).drop (len x))).map ((x :: xs).take (len x) :: ·)
    else none

/-- There are no more records than items, as none is empty. -/
def records (l : List α) : Option (List (List α)) := cut len l.length l

variable {len} {l : List α} {rs : List (List α)}

lemma cut_sound {n : ℕ} (h : cut len n l = some rs) :
    rs.flatten = l ∧ ∀ r ∈ rs, IsRecord len r := by
  induction n generalizing l rs with
  | zero =>
    cases l with
    | nil =>
      obtain rfl : [] = rs := Option.some_inj.1 h
      simp
    | cons x xs => cases h
  | succ n ih =>
    cases l with
    | nil =>
      obtain rfl : [] = rs := Option.some_inj.1 h
      simp
    | cons x xs =>
      rw [cut] at h
      split_ifs at h with hlen
      obtain ⟨rs', hcut, rfl⟩ := Option.map_eq_some_iff.1 h
      obtain ⟨hflatten, hrecords⟩ := ih hcut
      refine ⟨by rw [List.flatten_cons, hflatten, List.take_append_drop], ?_⟩
      rw [List.forall_mem_cons]
      refine ⟨?_, hrecords⟩
      obtain ⟨m, hm⟩ : ∃ m, len x = m + 1 := ⟨len x - 1, by omega⟩
      rw [hm, List.take_succ_cons]
      show len x = (xs.take m).length + 1
      rw [List.length_take]
      omega

lemma cut_complete {n : ℕ} (hrs : ∀ r ∈ rs, IsRecord len r) (hn : rs.flatten.length ≤ n) :
    cut len n rs.flatten = some rs := by
  induction rs generalizing n with
  | nil => cases n <;> rfl
  | cons r rs ih =>
    obtain ⟨hr, hrest⟩ := List.forall_mem_cons.1 hrs
    cases r with
    | nil => exact hr.elim
    | cons x xs =>
      have hlen : len x = xs.length + 1 := hr
      simp only [List.flatten_cons, List.cons_append, List.length_cons, List.length_append] at hn
      obtain ⟨m, rfl⟩ : ∃ m, n = m + 1 := ⟨n - 1, by omega⟩
      rw [List.flatten_cons, List.cons_append, cut,
        if_pos ⟨by omega, by rw [List.length_append]; omega⟩, hlen]
      simp [ih hrest (n := m) (by omega)]

theorem records_eq_some_iff :
    records len l = some rs ↔ rs.flatten = l ∧ ∀ r ∈ rs, IsRecord len r := by
  constructor
  · exact cut_sound
  · rintro ⟨rfl, hrs⟩
    exact cut_complete hrs le_rfl

end UsbJoystick.Lib
