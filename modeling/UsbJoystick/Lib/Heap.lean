import Mathlib.Data.List.AList
import Mathlib.Tactic

/-!
Singly linked lists in a heap.

A heap is a finite table of cells. Reading, writing or freeing through `NULL` or through an address
that is not allocated is a fault, and a fault is `none`; so is a loop that never ends. The loops
below take as many turns as the heap has cells: one that has not come to an end by then has been
at some cell twice, and goes round forever.

* `Seg h q p l`: from the pointer `p` on, the cells of `l` lie in the heap one after the other,
  and the last of them points to `q`.
* `Owns h p l R`: the list at `p` consists of the cells of `l`, and the only other cells of the heap
  are those at the addresses `R`. There is no room for a leak in it, and none for sharing.
* `Owns.cons`, `Owns.tail`, `Owns.concat` say what putting a cell in front, taking the first one
  away and linking a new one to the last do to it; `any_eq`, `last_eq`, `values_eq` say what the
  loops find.
-/

namespace UsbJoystick.Lib

universe u

/-- The address of a cell, or `NULL`. -/
abbrev Ptr := Option ℕ

structure Node (α : Type u) where
  val : α
  next : Ptr
  deriving DecidableEq, Repr

abbrev Heap (α : Type u) := AList fun _ : ℕ => Node α

namespace Heap

variable {α : Type u}

/-! ### Operations -/

def load (h : Heap α) (p : Ptr) : Option (Node α) := p.bind fun a => h.lookup a

/-- `*p = n`. -/
def store (p : Ptr) (n : Node α) (h : Heap α) : Option (Heap α) :=
  p.bind fun a => if a ∈ h then some (h.insert a n) else none

/-- `p->val = v`. -/
def setVal (p : Ptr) (v : α) (h : Heap α) : Option (Heap α) :=
  (h.load p).bind fun c => h.store p { c with val := v }

/-- `p->next = q`. -/
def setNext (p q : Ptr) (h : Heap α) : Option (Heap α) :=
  (h.load p).bind fun c => h.store p { c with next := q }

/-- The answers of `malloc`: `NULL`, or an address that is not in use, and what a new cell happens
to hold. -/
structure Allocator (α : Type u) where
  addr : Heap α → Ptr
  junk : Node α
  fresh : ∀ h a, addr h = some a → a ∉ h

def malloc (m : Allocator α) (h : Heap α) : Ptr × Heap α :=
  match m.addr h with
  | none => (none, h)
  | some a => (some a, h.insert a m.junk)

def free (p : Ptr) (h : Heap α) : Option (Heap α) :=
  match p with
  | none => some h
  | some a => if a ∈ h then some (h.erase a) else none

/-- The number of cells. -/
def size (h : Heap α) : ℕ := h.keys.length

/-- `while(p != NULL) { if(test(*p)) return 1; p = p->next; } return 0;`, for `n` turns. -/
def any (h : Heap α) (test : Node α → Option Bool) : ℕ → Ptr → Option Bool
  | _, none => some false
  | 0, some _ => none
  | n + 1, some a =>
    (h.lookup a).bind fun c => (test c).bind fun b =>
      if b then some true else any h test n c.next

/-- `while(p != NULL) { l += p->val; p = p->next; }`, for `n` turns. -/
def values (h : Heap α) : ℕ → Ptr → Option (List α)
  | _, none => some []
  | 0, some _ => none
  | n + 1, some a => (h.lookup a).bind fun c => (values h n c.next).map fun l => c.val :: l

/-- `while(p->next != NULL) p = p->next;`, for `n` turns. -/
def last (h : Heap α) : ℕ → Ptr → Option Ptr
  | 0, p => (h.load p).bind fun c => if c.next = none then some p else none
  | n + 1, p => (h.load p).bind fun c => if c.next = none then some p else last h n c.next

section Cell

variable {h : Heap α} {a : ℕ} {n : Node α}

lemma setVal_eq (hn : h.lookup a = some n) (v : α) :
    h.setVal (some a) v = some (h.insert a { n with val := v }) := by
  have ha : a ∈ h := AList.lookup_isSome.1 (by rw [hn]; rfl)
  simp [setVal, load, store, hn, ha]

lemma setNext_eq (hn : h.lookup a = some n) (q : Ptr) :
    h.setNext (some a) q = some (h.insert a { n with next := q }) := by
  have ha : a ∈ h := AList.lookup_isSome.1 (by rw [hn]; rfl)
  simp [setNext, load, store, hn, ha]

lemma free_eq (ha : a ∈ h) : h.free (some a) = some (h.erase a) := if_pos ha

lemma malloc_null {m : Allocator α} (hm : m.addr h = none) : h.malloc m = (none, h) := by
  rw [malloc, hm]

lemma malloc_eq {m : Allocator α} (hm : m.addr h = some a) :
    h.malloc m = (some a, h.insert a m.junk) := by
  rw [malloc, hm]

end Cell

/-! ### Lists -/

def Seg (h : Heap α) (q : Ptr) : Ptr → List (ℕ × α) → Prop
  | p, [] => p = q
  | p, (a, v) :: l => p = some a ∧ ∃ r, h.lookup a = some ⟨v, r⟩ ∧ Seg h q r l

structure Owns (h : Heap α) (p : Ptr) (l : List (ℕ × α)) (R : List ℕ) : Prop where
  seg : Seg h none p l
  keys : h.keys.Perm (l.map Prod.fst ++ R)

/-- The heap has become `h'`, in which the list is `l'` at `p'`; the cells at `R` are as before. -/
structure Changed (h h' : Heap α) (p' : Ptr) (l' : List (ℕ × α)) (R : List ℕ) : Prop where
  owns : Owns h' p' l' R
  same : ∀ b ∈ R, h'.lookup b = h.lookup b

section Seg

variable {h h' : Heap α} {p q : Ptr} {a b : ℕ} {v w : α} {n : ℕ} {l l' : List (ℕ × α)} {R : List ℕ}

lemma seg_append : Seg h q p (l ++ l') ↔ ∃ r, Seg h r p l ∧ Seg h q r l' := by
  induction l generalizing p with
  | nil => simp [Seg]
  | cons x l ih =>
    obtain ⟨a, v⟩ := x
    simp only [List.cons_append, Seg, ih]
    constructor
    · rintro ⟨rfl, r, hr, s, hs, hs'⟩
      exact ⟨s, ⟨rfl, r, hr, hs⟩, hs'⟩
    · rintro ⟨s, ⟨rfl, r, hr, hs⟩, hs'⟩
      exact ⟨rfl, r, hr, s, hs, hs'⟩

/-- A list does not depend on the cells that it does not have. -/
lemma Seg.frame (hl : Seg h q p l) (heq : ∀ x ∈ l, h'.lookup x.1 = h.lookup x.1) :
    Seg h' q p l := by
  induction l generalizing p with
  | nil => exact hl
  | cons x l ih =>
    obtain ⟨rfl, r, hr, hs⟩ := hl
    refine ⟨rfl, r, ?_, ih hs fun y hy => heq y (List.mem_cons_of_mem _ hy)⟩
    rw [heq x List.mem_cons_self]
    exact hr

lemma Seg.mem (hl : Seg h q p l) {x : ℕ × α} (hx : x ∈ l) : x.1 ∈ h := by
  induction l generalizing p with
  | nil => cases hx
  | cons y l ih =>
    obtain ⟨-, r, hr, hs⟩ := hl
    rcases List.mem_cons.1 hx with rfl | hx
    · exact AList.lookup_isSome.1 (by rw [hr]; rfl)
    · exact ih hs hx

lemma Owns.nodup (ho : Owns h p l R) : (l.map Prod.fst ++ R).Nodup :=
  ho.keys.nodup_iff.1 h.keys_nodup

lemma Owns.size_eq (ho : Owns h p l R) : h.size = l.length + R.length := by
  rw [size, ho.keys.length_eq, List.length_append, List.length_map]

lemma Owns.length_le (ho : Owns h p l R) : l.length ≤ h.size := by
  rw [ho.size_eq]
  exact Nat.le_add_right _ _

lemma Owns.notMem (ho : Owns h p l R) (ha : a ∉ h) : a ∉ l.map Prod.fst ∧ a ∉ R := by
  rw [AList.mem_keys, ho.keys.mem_iff, List.mem_append, not_or] at ha
  exact ha

lemma Changed.trans {h'' : Heap α} {p' p'' : Ptr} {l'' : List (ℕ × α)} (h₁ : Changed h h' p' l' R)
    (h₂ : Changed h' h'' p'' l'' R) : Changed h h'' p'' l'' R :=
  ⟨h₂.owns, fun b hb => (h₂.same b hb).trans (h₁.same b hb)⟩

/-! ### Changing a list -/

/-- **A new cell in front.** -/
theorem Owns.cons (ho : Owns h p l R) (ha : a ∉ h) :
    Changed h (h.insert a ⟨v, p⟩) (some a) ((a, v) :: l) R := by
  obtain ⟨hal, haR⟩ := ho.notMem ha
  refine ⟨⟨⟨rfl, p, AList.lookup_insert h, ho.seg.frame ?_⟩, ?_⟩, ?_⟩
  · intro x hx
    apply AList.lookup_insert_ne
    rintro rfl
    exact hal (List.mem_map_of_mem hx)
  · rw [AList.keys_insert, List.erase_of_not_mem (fun hk => ha (AList.mem_keys.2 hk))]
    exact ho.keys.cons a
  · intro b hb
    apply AList.lookup_insert_ne
    rintro rfl
    exact haR hb

/-- **Without its first cell.** -/
theorem Owns.tail (ho : Owns h p ((a, v) :: l) R) :
    ∃ q, p = some a ∧ h.lookup a = some ⟨v, q⟩ ∧ Changed h (h.erase a) q l R := by
  have hnodup := ho.nodup
  rw [List.map_cons, List.cons_append, List.nodup_cons, List.mem_append, not_or] at hnodup
  obtain ⟨⟨hal, haR⟩, -⟩ := hnodup
  obtain ⟨rfl, q, hq, hs⟩ := ho.seg
  refine ⟨q, rfl, hq, ⟨hs.frame ?_, ?_⟩, ?_⟩
  · intro x hx
    apply AList.lookup_erase_ne
    intro hxa
    exact hal (List.mem_map.2 ⟨x, hx, hxa⟩)
  · rw [AList.keys_erase]
    have hperm := ho.keys.erase a
    rwa [List.map_cons, List.cons_append, List.erase_cons_head] at hperm
  · intro b hb
    apply AList.lookup_erase_ne
    rintro rfl
    exact haR hb

/-- **A new cell behind the last one.** -/
theorem Owns.concat (ho : Owns h p (l ++ [(b, w)]) R) (ha : a ∉ h) (junk : Node α) :
    Changed h (((h.insert a junk).insert b ⟨w, some a⟩).insert a ⟨v, none⟩) p
      (l ++ [(b, w)] ++ [(a, v)]) R := by
  have hnodup := ho.nodup
  rw [List.map_append, List.append_assoc, List.map_singleton, List.nodup_append,
    List.singleton_append, List.nodup_cons] at hnodup
  obtain ⟨-, ⟨hbR, -⟩, hlb⟩ := hnodup
  obtain ⟨hal, haR⟩ := ho.notMem ha
  have hab : a ≠ b := by
    rintro rfl
    exact hal (by simp)
  -- the two cells that are written are not among the others
  have hother : ∀ c, c ≠ a → c ≠ b →
      (((h.insert a junk).insert b ⟨w, some a⟩).insert a ⟨v, none⟩).lookup c = h.lookup c := by
    intro c hca hcb
    rw [AList.lookup_insert_ne hca, AList.lookup_insert_ne hcb, AList.lookup_insert_ne hca]
  refine ⟨⟨?_, ?_⟩, fun c hc => hother c ?_ ?_⟩
  · obtain ⟨r, hl, hr⟩ := seg_append.1 ho.seg
    obtain ⟨rfl, -⟩ := hr
    rw [List.append_assoc]
    refine seg_append.2 ⟨some b, hl.frame fun x hx => hother x.1 ?_ ?_, rfl, some a, ?_, ?_⟩
    · rintro rfl
      exact hal (List.mem_map_of_mem (List.mem_append_left _ hx))
    · exact hlb x.1 (List.mem_map_of_mem hx) b List.mem_cons_self
    · rw [AList.lookup_insert_ne hab.symm, AList.lookup_insert]
    · exact ⟨rfl, none, AList.lookup_insert _, rfl⟩
  · have hbh : b ∈ h := ho.seg.mem (x := (b, w)) (by simp)
    have hkeys : (((h.insert a junk).insert b ⟨w, some a⟩).insert a ⟨v, none⟩).keys.Perm
        (a :: h.keys) := by
      rw [List.perm_ext_iff_of_nodup (AList.keys_nodup _)]
      · intro c
        simp only [← AList.mem_keys, AList.mem_insert, List.mem_cons]
        constructor
        · rintro (rfl | rfl | rfl | hc)
          · exact Or.inl rfl
          · exact Or.inr hbh
          · exact Or.inl rfl
          · exact Or.inr hc
        · rintro (rfl | hc)
          · exact Or.inl rfl
          · exact Or.inr (Or.inr (Or.inr hc))
      · exact List.nodup_cons.2 ⟨fun hk => ha (AList.mem_keys.2 hk), h.keys_nodup⟩
    refine hkeys.trans ((ho.keys.cons a).trans ?_)
    rw [show (l ++ [(b, w)] ++ [(a, v)]).map Prod.fst = (l ++ [(b, w)]).map Prod.fst ++ [a] from
      List.map_append, List.append_assoc]
    exact List.perm_middle.symm
  · rintro rfl
    exact haR hc
  · rintro rfl
    exact hbR hc

/-! ### Loops -/

lemma any_eq (f : α → Bool) (hl : Seg h none p l) (hn : l.length ≤ n) :
    any h (fun c => some (f c.val)) n p = some ((l.map Prod.snd).any f) := by
  induction l generalizing p n with
  | nil =>
    obtain rfl : p = none := hl
    cases n <;> rfl
  | cons x l ih =>
    obtain ⟨rfl, r, hr, hs⟩ := hl
    obtain ⟨n, rfl⟩ : ∃ m, n = m + 1 := ⟨n - 1, by simp at hn; omega⟩
    rw [any, hr, Option.bind_some, Option.bind_some, List.map_cons, List.any_cons]
    cases hx : f x.2 with
    | true => rfl
    | false => exact ih hs (by simpa using hn)

lemma values_eq (hl : Seg h none p l) (hn : l.length ≤ n) :
    values h n p = some (l.map Prod.snd) := by
  induction l generalizing p n with
  | nil =>
    obtain rfl : p = none := hl
    cases n <;> rfl
  | cons x l ih =>
    obtain ⟨rfl, r, hr, hs⟩ := hl
    obtain ⟨n, rfl⟩ : ∃ m, n = m + 1 := ⟨n - 1, by simp at hn; omega⟩
    rw [values, hr]
    simp [ih hs (by simpa using hn)]

lemma last_eq (hl : Seg h none p (l ++ [(a, v)])) (hn : l.length ≤ n) :
    last h n p = some (some a) := by
  induction l generalizing p n with
  | nil =>
    obtain ⟨rfl, r, hr, hs⟩ := hl
    obtain rfl : r = none := hs
    cases n <;> simp [last, load, hr]
  | cons x l ih =>
    obtain ⟨rfl, r, hr, hs⟩ := hl
    obtain ⟨n, rfl⟩ : ∃ m, n = m + 1 := ⟨n - 1, by simp at hn; omega⟩
    have hne : r ≠ none := by
      obtain ⟨s, hl', hs'⟩ := seg_append.1 hs
      cases l with
      | nil =>
        obtain rfl : r = s := hl'
        simp [hs'.1]
      | cons y l => simp [hl'.1]
    rw [last, load, Option.bind_some, hr, Option.bind_some, if_neg hne]
    exact ih hs (by simpa using hn)

end Seg

end Heap

end UsbJoystick.Lib
