import Mathlib.Tactic

/-!
The host side of the joystick: `save_interrupt_endpoints` of `libusb/usb_host.c`.

The function claims the interfaces of the configuration one by one, and before it claims one it
copies the first interrupt endpoint of the interface to the next place of the global `endp_list`.
`key_pressed` and `usb_send` then use the endpoints at the places 0 and 1 (`endpoints_used`). How
many places are written is up to the device (`writes_lt_iff`).

The counters of both loops are bytes, and so are the numbers of interfaces and of endpoints that
they are compared with; the loops go through the lists.
-/

namespace UsbJoystick.Host

/-- A `libusb_endpoint_descriptor`, with the fields that the program reads. -/
structure Endpoint where
  bEndpointAddress : UInt8
  bmAttributes : UInt8
  deriving DecidableEq, Repr

/-- Altsetting 0 of a `libusb_interface`. -/
structure Interface where
  bInterfaceNumber : UInt8
  endpoint : List Endpoint
  bNumEndpoints_lt : endpoint.length < 256

/-- A `libusb_config_descriptor`. -/
structure ConfigDescriptor where
  interface : List Interface
  bNumInterfaces_lt : interface.length < 256

/-- The local `cpt`, and what the function has done so far. -/
structure Saving where
  cpt : UInt8 := 0
  writes : List (Endpoint × ℕ) := [] -- the assignments to `endp_list`, with their index
  claimed : List UInt8 := []
  deriving DecidableEq, Repr

inductive Outcome where
  | returned (s : Saving)
  | exited (s : Saving) -- `exit(-1)`
  deriving DecidableEq, Repr

def Saving.write (s : Saving) (endp : Endpoint) : Saving :=
  { s with writes := s.writes ++ [(endp, s.cpt.toNat)], cpt := s.cpt + 1 }

/-- The loop over the endpoints of an interface. It breaks as soon as `done` is 1, so that `done`
is 0 at the beginning of every turn. -/
def endpointLoop : List Endpoint → Saving → Saving
  | [], s => s
  | endp :: rest, s =>
    let endpointType := endp.bmAttributes &&& 0x03
    let (s, done) := if endpointType = 3 then (s.write endp, true) else (s, false)
    if done then s else endpointLoop rest s

/-- The loop over the interfaces, from the interface `i` on. The answer to the `i`-th call of
`libusb_claim_interface` is `claim i`; it is an error if it is not zero. -/
def interfaceLoop (claim : ℕ → ℤ) : List Interface → ℕ → Saving → Outcome
  | [], _, s => .returned s
  | interd :: rest, i, s =>
    let s := endpointLoop interd.endpoint s
    if claim i ≠ 0 then .exited s
    else interfaceLoop claim rest (i + 1)
      { s with claimed := s.claimed ++ [interd.bInterfaceNumber] }

def saveInterruptEndpoints (claim : ℕ → ℤ) (config : ConfigDescriptor) : Outcome :=
  interfaceLoop claim config.interface 0 {}

/-! ### One interface -/

def Endpoint.isInterrupt (endp : Endpoint) : Bool := decide (endp.bmAttributes &&& 0x03 = 3)

def Interface.firstInterrupt (interd : Interface) : Option Endpoint :=
  interd.endpoint.find? Endpoint.isInterrupt

/-- The inner loop writes the first interrupt endpoint, if there is one. -/
lemma endpointLoop_eq (endps : List Endpoint) (s : Saving) :
    endpointLoop endps s = (endps.find? Endpoint.isInterrupt).elim s s.write := by
  induction endps with
  | nil => rfl
  | cons endp rest ih =>
    by_cases h : endp.bmAttributes &&& 0x03 = 3
    · simp [endpointLoop, Endpoint.isInterrupt, h]
    · simp [endpointLoop, Endpoint.isInterrupt, h, ih]

/-- A turn of the outer loop whose claim succeeds. -/
def turn (s : Saving) (interd : Interface) : Saving :=
  { endpointLoop interd.endpoint s with
    claimed := (endpointLoop interd.endpoint s).claimed ++ [interd.bInterfaceNumber] }

/-- What has been written when the interfaces `is` have been looked at: their first interrupt
endpoints, at the places 0, 1, 2, … -/
structure Written (s : Saving) (is : List Interface) : Prop where
  writes : s.writes = (is.filterMap Interface.firstInterrupt).zipIdx
  cpt : s.cpt.toNat = (is.filterMap Interface.firstInterrupt).length

lemma written_nil : Written {} [] := ⟨rfl, rfl⟩

lemma endpointLoop_claimed (endps : List Endpoint) (s : Saving) :
    (endpointLoop endps s).claimed = s.claimed := by
  rw [endpointLoop_eq]
  cases endps.find? Endpoint.isInterrupt <;> rfl

/-- **One interface.** `cpt` does not wrap around, since it counts interfaces. -/
theorem Written.endpointLoop {s : Saving} {is : List Interface} (h : Written s is)
    (interd : Interface) (hlen : is.length + 1 < 256) :
    Written (endpointLoop interd.endpoint s) (is ++ [interd]) := by
  have hfound : (is ++ [interd]).filterMap Interface.firstInterrupt =
      is.filterMap Interface.firstInterrupt ++ interd.firstInterrupt.toList := by
    rw [List.filterMap_append]
    cases hi : interd.firstInterrupt <;> simp [hi]
  have hle := List.length_filterMap_le Interface.firstInterrupt is
  rw [endpointLoop_eq]
  change Written (interd.firstInterrupt.elim s s.write) _
  cases hi : interd.firstInterrupt with
  | none => exact ⟨by simp [hfound, hi, h.writes], by simp [hfound, hi, h.cpt]⟩
  | some endp =>
    constructor
    · simp [Saving.write, hfound, hi, h.writes, h.cpt, List.zipIdx_append]
    · have hsucc : (s.cpt + 1).toNat = s.cpt.toNat + 1 := by
        have hcpt := h.cpt
        rw [UInt8.toNat_add, UInt8.toNat_one]
        omega
      simp [Saving.write, hfound, hi, hsucc, h.cpt]

/-! ### The whole function -/

lemma written_turns (is : List Interface) (hlen : is.length < 256) :
    Written (is.foldl turn {}) is := by
  induction is using List.reverseRecOn with
  | nil => exact written_nil
  | append_singleton is interd ih =>
    rw [List.length_append, List.length_singleton] at hlen
    rw [List.foldl_append]
    obtain ⟨hwrites, hcpt⟩ := (ih (by omega)).endpointLoop interd hlen
    exact ⟨hwrites, hcpt⟩

lemma claimed_turns (is : List Interface) :
    (is.foldl turn {}).claimed = is.map Interface.bInterfaceNumber := by
  induction is using List.reverseRecOn with
  | nil => rfl
  | append_singleton is interd ih =>
    rw [List.foldl_append, List.map_append, ← ih]
    exact congrArg (· ++ [interd.bInterfaceNumber]) (endpointLoop_claimed _ _)

/-- The outer loop goes on as long as the claims succeed. -/
lemma interfaceLoop_append (claim : ℕ → ℤ) (as bs : List Interface) (i : ℕ) (s : Saving)
    (h : ∀ j < as.length, claim (i + j) = 0) :
    interfaceLoop claim (as ++ bs) i s =
      interfaceLoop claim bs (i + as.length) (as.foldl turn s) := by
  induction as generalizing i s with
  | nil => rfl
  | cons interd as ih =>
    have hi : claim i = 0 := h 0 (by simp)
    have hrest : ∀ j < as.length, claim (i + 1 + j) = 0 := by
      intro j hj
      rw [add_assoc, add_comm 1 j]
      exact h (j + 1) (by simpa using hj)
    simp only [List.cons_append, interfaceLoop, hi, ne_eq, not_true_eq_false, if_false]
    rw [ih _ _ hrest, List.length_cons, List.foldl_cons, add_assoc, add_comm 1]
    rfl

/-- Either all claims succeed or one is the first to fail. -/
lemma claims_cases (claim : ℕ → ℤ) (len : ℕ) :
    (∀ i < len, claim i = 0) ∨ ∃ m < len, (∀ i < m, claim i = 0) ∧ claim m ≠ 0 := by
  by_cases h : ∀ i < len, claim i = 0
  · exact .inl h
  · push Not at h
    obtain ⟨hm, hfail⟩ := Nat.find_spec h
    refine .inr ⟨Nat.find h, hm, ?_, hfail⟩
    intro i hi
    by_contra hne
    exact Nat.find_min h hi ⟨hi.trans hm, hne⟩

lemma saveInterruptEndpoints_of_claims {claim : ℕ → ℤ} {config : ConfigDescriptor}
    (h : ∀ i < config.interface.length, claim i = 0) :
    saveInterruptEndpoints claim config = .returned (config.interface.foldl turn {}) := by
  have hloop := interfaceLoop_append claim config.interface [] 0 {} (by simpa using h)
  rwa [List.append_nil] at hloop

/-- A failed claim ends the process, after the endpoint of its interface has been written. -/
lemma saveInterruptEndpoints_of_failed {claim : ℕ → ℤ} {config : ConfigDescriptor} {m : ℕ}
    (hm : m < config.interface.length) (h : ∀ i < m, claim i = 0) (hfail : claim m ≠ 0) :
    saveInterruptEndpoints claim config = .exited
      (endpointLoop config.interface[m].endpoint ((config.interface.take m).foldl turn {})) := by
  obtain ⟨is, hlen⟩ := config
  simp only at hm ⊢
  have htake : (is.take m).length = m := List.length_take_of_le hm.le
  have hsplit : is = is.take m ++ is[m] :: is.drop (m + 1) := by
    rw [List.getElem_cons_drop, List.take_append_drop]
  have hloop := interfaceLoop_append claim (is.take m) (is[m] :: is.drop (m + 1)) 0 {}
    (by simpa [htake] using h)
  rwa [← hsplit, htake, zero_add, interfaceLoop, if_pos hfail] at hloop

lemma written_failed (is : List Interface) {m : ℕ} (hm : m < is.length) (hlen : is.length < 256) :
    Written (endpointLoop is[m].endpoint ((is.take m).foldl turn {})) (is.take (m + 1)) := by
  have htake : (is.take m).length = m := List.length_take_of_le hm.le
  rw [← List.take_append_getElem hm]
  exact (written_turns (is.take m) (by omega)).endpointLoop is[m] (by omega)

lemma claims_of_returned {claim : ℕ → ℤ} {config : ConfigDescriptor} {s : Saving}
    (h : saveInterruptEndpoints claim config = .returned s) :
    ∀ i < config.interface.length, claim i = 0 := by
  rcases claims_cases claim config.interface.length with hclaim | ⟨m, hm, hbefore, hfail⟩
  · exact hclaim
  · rw [saveInterruptEndpoints_of_failed hm hbefore hfail] at h
    cases h

/-- **The saved endpoints.** If all claims succeed, the function writes the first interrupt
endpoint of every interface that has one, in order and to the places 0, 1, 2, …, and claims every
interface once, in order. If the claim of the interface `m` is the first to fail, exactly the
interfaces before it have been claimed when the process exits, and the endpoints of the interfaces
up to `m` have been written. -/
theorem saved_endpoints (claim : ℕ → ℤ) (config : ConfigDescriptor) :
    ((∀ i < config.interface.length, claim i = 0) →
      ∃ s, saveInterruptEndpoints claim config = .returned s ∧
        s.writes = (config.interface.filterMap Interface.firstInterrupt).zipIdx ∧
        s.claimed = config.interface.map Interface.bInterfaceNumber) ∧
    ∀ m < config.interface.length, (∀ i < m, claim i = 0) → claim m ≠ 0 →
      ∃ s, saveInterruptEndpoints claim config = .exited s ∧
        s.writes = ((config.interface.take (m + 1)).filterMap Interface.firstInterrupt).zipIdx ∧
        s.claimed = (config.interface.take m).map Interface.bInterfaceNumber := by
  constructor
  · intro h
    have hwritten := written_turns config.interface config.bNumInterfaces_lt
    exact ⟨_, saveInterruptEndpoints_of_claims h, hwritten.writes, claimed_turns _⟩
  · intro m hm h hfail
    have hwritten := written_failed config.interface hm config.bNumInterfaces_lt
    refine ⟨_, saveInterruptEndpoints_of_failed hm h hfail, hwritten.writes, ?_⟩
    rw [endpointLoop_claimed, claimed_turns]

/-- The configuration of the joystick: an interface for the buttons and one for the LED. -/
def padConfig : ConfigDescriptor :=
  ⟨[⟨0, [⟨0x81, 0x03⟩], by decide⟩, ⟨1, [⟨0x02, 0x03⟩], by decide⟩], by decide⟩

theorem saved_endpoints_pad :
    (∃ s, saveInterruptEndpoints (fun _ => 0) padConfig = .returned s ∧
      s.writes = [(⟨0x81, 0x03⟩, 0), (⟨0x02, 0x03⟩, 1)] ∧ s.claimed = [0, 1]) ∧
    ∃ s, saveInterruptEndpoints (fun i => if i = 1 then -1 else 0) padConfig = .exited s ∧
      s.writes = [(⟨0x81, 0x03⟩, 0), (⟨0x02, 0x03⟩, 1)] ∧ s.claimed = [0] :=
  ⟨(saved_endpoints _ padConfig).1 fun _ _ => rfl,
    (saved_endpoints _ padConfig).2 1 (by decide) (by decide) (by decide)⟩

/-! ### The indices -/

def Outcome.saving : Outcome → Saving
  | .returned s => s
  | .exited s => s

def Interface.hasInterrupt (interd : Interface) : Bool := interd.endpoint.any Endpoint.isInterrupt

lemma length_found (is : List Interface) :
    (is.filterMap Interface.firstInterrupt).length = is.countP Interface.hasInterrupt := by
  rw [List.length_filterMap_eq_countP]
  congr 1
  funext interd
  exact List.isSome_find?

lemma zipIdx_lt_iff {α : Type*} {l : List α} {size : ℕ} :
    (∀ w ∈ l.zipIdx, w.2 < size) ↔ l.length ≤ size := by
  constructor
  · intro h
    by_contra! hlt
    exact lt_irrefl size (h (l[size], size) (List.mk_mem_zipIdx_iff_getElem?.2 (by simp [hlt])))
  · intro h w hw
    exact (List.snd_lt_of_mem_zipIdx hw).trans_le h

/-- **How far the function gets.** It looks at the first `k` interfaces, where the interface `n` is
among them if all claims before it succeed. -/
lemma exists_lookedAt (claim : ℕ → ℤ) (config : ConfigDescriptor) :
    ∃ k ≤ config.interface.length,
      Written (saveInterruptEndpoints claim config).saving (config.interface.take k) ∧
      ∀ n < config.interface.length, (∀ i < n, claim i = 0) ↔ n < k := by
  rcases claims_cases claim config.interface.length with h | ⟨m, hm, h, hfail⟩
  · refine ⟨config.interface.length, le_rfl, ?_, ?_⟩
    · rw [saveInterruptEndpoints_of_claims h, List.take_length]
      exact written_turns _ config.bNumInterfaces_lt
    · intro n hn
      exact ⟨fun _ => hn, fun _ i hi => h i (hi.trans hn)⟩
  · refine ⟨m + 1, hm, ?_, ?_⟩
    · rw [saveInterruptEndpoints_of_failed hm h hfail]
      exact written_failed _ hm config.bNumInterfaces_lt
    · intro n _
      constructor
      · intro hn
        by_contra! hlt
        exact hfail (hn m hlt)
      · intro hn i hi
        exact h i (by omega)

/-- **The indices of the writes.** They are all less than `size` if and only if, at every interface
that the function gets to, at most `size` of the interfaces up to it have an interrupt endpoint. -/
theorem writes_lt_iff (claim : ℕ → ℤ) (config : ConfigDescriptor) (size : ℕ) :
    (∀ w ∈ (saveInterruptEndpoints claim config).saving.writes, w.2 < size) ↔
      ∀ n < config.interface.length, (∀ i < n, claim i = 0) →
        (config.interface.take (n + 1)).countP Interface.hasInterrupt ≤ size := by
  obtain ⟨k, hk, hwritten, hreached⟩ := exists_lookedAt claim config
  rw [hwritten.writes, zipIdx_lt_iff, length_found]
  constructor
  · intro h n hn hclaim
    have hle : n + 1 ≤ k := (hreached n hn).1 hclaim
    exact (List.take_sublist_take_left hle).countP_le.trans h
  · intro h
    cases k with
    | zero => simp
    | succ n => exact h n hk ((hreached n hk).2 n.lt_succ_self)

/-- It is the device that decides on the length that `endp_list` would have to have. -/
theorem writes_lt_iff_of_any_claims (config : ConfigDescriptor) (size : ℕ) :
    (∀ claim, ∀ w ∈ (saveInterruptEndpoints claim config).saving.writes, w.2 < size) ↔
      config.interface.countP Interface.hasInterrupt ≤ size := by
  constructor
  · intro h
    have hwritten := written_turns config.interface config.bNumInterfaces_lt
    have hall := h fun _ => 0
    rw [saveInterruptEndpoints_of_claims fun _ _ => rfl] at hall
    simp only [Outcome.saving] at hall
    rwa [hwritten.writes, zipIdx_lt_iff, length_found] at hall
  · intro h claim
    rw [writes_lt_iff]
    intro n _ _
    exact (List.take_sublist _ _).countP_le.trans h

/-! ### The endpoints in use -/

/-- The contents of `endp_list`, an array of 10 that is zero at the beginning. There are none
after a write outside of it. -/
def endpList (writes : List (Endpoint × ℕ)) : Option (Vector Endpoint 10) :=
  writes.foldlM (fun list w => if h : w.2 < 10 then some (list.set w.2 w.1) else none)
    (Vector.replicate 10 ⟨0, 0⟩)

/-- The address that `key_pressed` reads from. -/
def endpointIn (list : Vector Endpoint 10) : UInt8 := list[0].bEndpointAddress

/-- The address that `usb_send` writes to. -/
def endpointOut (list : Vector Endpoint 10) : UInt8 := list[1].bEndpointAddress

lemma endpList_append_singleton (writes : List (Endpoint × ℕ)) (w : Endpoint × ℕ) :
    endpList (writes ++ [w]) = (endpList writes).bind fun list =>
      if h : w.2 < 10 then some (list.set w.2 w.1) else none := by
  rw [endpList, List.foldlM_append]
  simp only [List.foldlM_cons, List.foldlM_nil, bind_pure]
  rfl

/-- The array has contents as long as all indices are in bounds. -/
theorem isSome_endpList_iff (writes : List (Endpoint × ℕ)) :
    (endpList writes).isSome ↔ ∀ w ∈ writes, w.2 < 10 := by
  induction writes using List.reverseRecOn with
  | nil => simp [endpList]
  | append_singleton writes w ih =>
    rw [endpList_append_singleton, List.forall_mem_append, ← ih, List.forall_mem_singleton]
    cases endpList writes with
    | none => simp
    | some list => by_cases hw : w.2 < 10 <;> simp [hw]

lemma getElem_endpList {endps : List Endpoint} {list : Vector Endpoint 10}
    (h : endpList endps.zipIdx = some list) (i : ℕ) (hi : i < 10) :
    list[i] = endps[i]?.getD ⟨0, 0⟩ := by
  induction endps using List.reverseRecOn generalizing list with
  | nil =>
    obtain rfl := Option.some_inj.1 h
    simp
  | append_singleton endps endp ih =>
    rw [List.zipIdx_append, List.zipIdx_singleton, endpList_append_singleton] at h
    obtain ⟨list', h', hset⟩ := Option.bind_eq_some_iff.1 h
    have hlist' := ih h'
    simp only [zero_add] at hset
    split_ifs at hset with hlt
    obtain rfl := Option.some_inj.1 hset
    rw [Vector.getElem_set]
    split_ifs with hi'
    · subst hi'
      simp
    · rw [hlist']
      by_cases hlt' : i < endps.length
      · rw [List.getElem?_append_left hlt']
      · rw [List.getElem?_eq_none (by omega), List.getElem?_eq_none (by simp; omega)]

/-- The found endpoints, and zeros after them; or nothing if there are more than 10. -/
theorem endpList_zipIdx (endps : List Endpoint) :
    endpList endps.zipIdx = if endps.length ≤ 10
      then some (Vector.ofFn fun i => endps[i.1]?.getD ⟨0, 0⟩) else none := by
  split_ifs with hlen
  · obtain ⟨list, hlist⟩ :=
      Option.isSome_iff_exists.1 ((isSome_endpList_iff _).2 (zipIdx_lt_iff.2 hlen))
    rw [hlist, Option.some_inj]
    ext1 i hi
    rw [getElem_endpList hlist i hi, Vector.getElem_ofFn]
  · rw [← Option.not_isSome_iff_eq_none, isSome_endpList_iff, zipIdx_lt_iff]
    exact hlen

/-- **The positions that the game relies on.** If all claims have succeeded and no write was outside
of `endp_list`, `key_pressed` reads from the first interface that has an interrupt endpoint, and
`usb_send` writes to the second. -/
theorem endpoints_used {claim : ℕ → ℤ} {config : ConfigDescriptor} {s : Saving}
    {list : Vector Endpoint 10} (hclaim : ∀ i < config.interface.length, claim i = 0)
    (hs : saveInterruptEndpoints claim config = .returned s) (hlist : endpList s.writes = some list)
    {first second : Endpoint} {rest : List Endpoint}
    (hfound : config.interface.filterMap Interface.firstInterrupt = first :: second :: rest) :
    endpointIn list = first.bEndpointAddress ∧ endpointOut list = second.bEndpointAddress := by
  rw [saveInterruptEndpoints_of_claims hclaim] at hs
  obtain rfl := Outcome.returned.inj hs
  have hwritten := written_turns config.interface config.bNumInterfaces_lt
  rw [hwritten.writes, hfound] at hlist
  constructor
  · rw [endpointIn, getElem_endpList hlist 0 (by decide)]
    rfl
  · rw [endpointOut, getElem_endpList hlist 1 (by decide)]
    rfl

/-- With the joystick's own configuration, these are the buttons and the LED. -/
example : (endpList ((padConfig.interface.filterMap Interface.firstInterrupt).zipIdx)).map
    (fun list => (endpointIn list, endpointOut list)) = some (0x81, 0x02) := by decide

end UsbJoystick.Host
