import UsbJoystick.Lib.Heap
import UsbJoystick.Lib.Simulation
import UsbJoystick.Snake.Trail

/-!
`game.c` with its pointers.

In the source a snake is a pointer to the first of its cells, which are allocated and freed one by
one; the other modules have the list of the cells instead. Here are the functions of the source on
a heap, and the machine `memory`, which is `main` with these functions in place of those on lists.
The lists of `Game` are not used in it. A step of `memory` is `none` when a `NULL` or a dangling
pointer is followed, when a cell is freed twice, or when a loop over a list does not end.

`head_add` and `tail_add` write through the answer of `malloc` without a look at it, so the program
ends there if the answer is `NULL`. This is the only fault that it has (`step_stored`): a step that
`main` can take is taken by `memory` too, unless `malloc` has refused it a cell. `Shows` relates the
two machines: the lists of `main` are those in the heap. It is kept by every step; so whatever holds
of the lists of `main` holds of the lists in the heap. The cells in the heap are those of the
snakes, each in one place: none is shared, and none is lost.
-/

namespace UsbJoystick.Snake.Memory

open UsbJoystick.Lib UsbJoystick.Lib.Heap

/-! ### The functions -/

def headAdd (m : Allocator Pos) (snake : Ptr) (pos : Pos) (h : Heap Pos) :
    Option (Ptr × Heap Pos) := do
  let temp := snake
  let (snake, h) := h.malloc m
  let h ← h.setVal snake pos
  let h ← h.setNext snake temp
  return (snake, h)

def headDel (snake : Ptr) (h : Heap Pos) : Option (Ptr × Heap Pos) := do
  let cell ← h.load snake
  let temp := cell.next
  let h ← h.free snake
  return (temp, h)

/-- `tail_add`, without the cache of the head. -/
def tailAdd (m : Allocator Pos) (snake : Ptr) (pos : Pos) (h : Heap Pos) : Option (Heap Pos) := do
  let temp ← h.last h.size snake
  let (new, h) := h.malloc m
  let h ← h.setNext temp new
  let cell ← h.load temp
  let h ← h.setVal cell.next pos
  let cell ← h.load temp
  h.setNext cell.next none

def getTail (snake : Ptr) (h : Heap Pos) : Option (Node Pos) := do
  let temp ← h.last h.size snake
  h.load temp

def snakeGrow (m : Allocator Pos) (snake : Ptr) (h : Heap Pos) : Option (Ptr × Heap Pos) := do
  let first ← h.load snake
  match first.val.dir with
  | .up => headAdd m snake ⟨first.val.x + 1, first.val.y, .up⟩ h
  | .down => headAdd m snake ⟨first.val.x - 1, first.val.y, .down⟩ h
  | .right => headAdd m snake ⟨first.val.x, first.val.y - 1, .right⟩ h
  | .left => headAdd m snake ⟨first.val.x, first.val.y + 1, .left⟩ h

/-- The loop of `crash_check`, with its inner loop over the cells that follow. -/
def crashCheck (snake : Ptr) (h : Heap Pos) : Option Bool :=
  h.any (fun temp => h.any (fun temp2 =>
    some (decide (temp.val.x = temp2.val.x ∧ temp.val.y = temp2.val.y))) h.size temp.next)
    h.size snake

def crashSnakeCheck (snake : Ptr) (id : Player) (g : Game) (h : Heap Pos) : Option Bool :=
  let e := (g.side id).snakeEnd
  h.any (fun temp => some (decide (temp.val.x = e.x ∧ temp.val.y = e.y))) h.size snake

/-! ### The machine -/

/-- The state of `main`, with the locals `snake` and `snake_b` and the heap. -/
structure MemConfig where
  pc : Pc
  game : Game -- the lists of its two sides are not used
  snake : Player → Ptr
  heap : Heap Pos

/-- The answers of the outside world, and those of `malloc`. -/
structure MemInput extends Input where
  malloc : Allocator Pos

namespace MemConfig

def goto (pc : Pc) (c : MemConfig) : MemConfig := { c with pc := pc }

/-- A new list for a player, and the cache of its head. -/
def setSnake (c : MemConfig) (id : Player) (snake : Ptr) (h : Heap Pos) (pos : Pos) : MemConfig :=
  { c with
    snake := Function.update c.snake id snake
    heap := h
    game := c.game.setSide id { c.game.side id with snakeEnd := pos } }

def lose (id : Player) (c : MemConfig) : MemConfig :=
  { c with pc := .epilogue, game := { c.game with loose := some id } }

end MemConfig

def initSnake (m : Allocator Pos) (id : Player) (c : MemConfig) : Option MemConfig := do
  let row := initRow id c.game
  let (snake, h) ← headAdd m none ⟨row, 3, .right⟩ c.heap
  let (snake, h) ← headAdd m snake ⟨row, 2, .right⟩ h
  let (snake, h) ← headAdd m snake ⟨row, 1, .right⟩ h
  let tail ← getTail snake h
  return c.setSnake id snake h tail.val

/-- The pair of calls that ends every branch of `snake_move`. -/
def moveTo (m : Allocator Pos) (pos : Pos) (id : Player) (c : MemConfig) : Option MemConfig := do
  let h ← tailAdd m (c.snake id) pos c.heap
  let (snake, h) ← headDel (c.snake id) h
  return c.setSnake id snake h pos

def snakeMove (m : Allocator Pos) (dir : Dir) (id : Player) (c : MemConfig) : Option MemConfig :=
  let posX := (c.game.side id).snakeEnd.x
  let posY := (c.game.side id).snakeEnd.y
  let dirL := (c.game.side id).snakeEnd.dir
  match dir with
  | .up =>
    if dirL = .down then moveTo m ⟨posX + 1, posY, .down⟩ id c
    else moveTo m ⟨posX - 1, posY, .up⟩ id c
  | .down =>
    if dirL = .up then moveTo m ⟨posX - 1, posY, .up⟩ id c
    else moveTo m ⟨posX + 1, posY, .down⟩ id c
  | .right =>
    if dirL = .left then moveTo m ⟨posX, posY - 1, .left⟩ id c
    else moveTo m ⟨posX, posY + 1, .right⟩ id c
  | .left =>
    if dirL = .right then moveTo m ⟨posX, posY + 1, .right⟩ id c
    else moveTo m ⟨posX, posY - 1, .left⟩ id c

def snakeDisp (id : Player) (c : MemConfig) : Option MemConfig := do
  let cells ← c.heap.values c.heap.size (c.snake id)
  return { c with game := mvprintw (cells.map fun p => ⟨p.x, p.y, "o"⟩) c.game }

/-- What a meal from the slot `i` does to the score and to the bonuses. -/
def eat (i : ℕ) (id : Player) (g : Game) : Game :=
  let s := g.side id
  let g' := g.setSide id { s with score := s.score + 1 }
  { g'.setSlot i { g.slot i with activ := false } with nbBonus := g.nbBonus - 1 }

def bonusCheck (m : Allocator Pos) (id : Player) (c : MemConfig) : Option MemConfig :=
  match hitSlot id c.game with
  | none => some c
  | some i => do
    let (snake, h) ← snakeGrow m (c.snake id) c.heap
    return { c with game := eat i id c.game, snake := Function.update c.snake id snake, heap := h }

/-- The program point after a statement that works on the list of one player. -/
def after (g : Game) : Pc → Pc
  | .initSnake .one => g.ifTwo (.initSnake .two) .initBonus
  | .initSnake .two => .initBonus
  | .snakeMove .one => g.ifTwo (.snakeMove .two) (.snakeDisp .one)
  | .snakeMove .two => .snakeDisp .one
  | .snakeDisp .one => g.ifTwo (.snakeDisp .two) (.wallCheck .one)
  | .snakeDisp .two => .wallCheck .one
  | .crashCheck id => .bonusCheck id
  | .bonusCheck .one => g.ifTwo (.wallCheck .two) .refresh
  | .bonusCheck .two => .crashSnakeCheck .two
  | .crashSnakeCheck .two => .crashSnakeCheck .one
  | .crashSnakeCheck .one => .refresh
  | pc => pc

def step (c : MemConfig) (e : MemInput) : Option MemConfig :=
  let g := c.game
  match c.pc with
  | .initSnake id => (initSnake e.malloc id c).map (·.goto (after g c.pc))
  | .snakeMove id => (snakeMove e.malloc (g.dirOf id) id c).map (·.goto (after g c.pc))
  | .snakeDisp id => (snakeDisp id c).map (·.goto (after g c.pc))
  | .crashCheck id =>
    (crashCheck (c.snake id) c.heap).map fun b => if b then c.lose id else c.goto (after g c.pc)
  | .bonusCheck id => (bonusCheck e.malloc id c).map (·.goto (after g c.pc))
  | .crashSnakeCheck id =>
    (crashSnakeCheck (c.snake id.other) id g c.heap).map fun b =>
      if b then c.lose id else c.goto (after g c.pc)
  -- the other statements do not touch the lists
  | pc => (Snake.step ⟨pc, g⟩ e.toInput).map fun d => { c with pc := d.pc, game := d.game }

def memory : Machine MemConfig MemInput where
  step := step

/-- The program before its first menu. The locals `snake` and `snake_b` have no value yet. -/
def initial (arg : List Char) (ch2 : ℤ) (snake : Player → Ptr) : MemConfig :=
  ⟨.menuDisp 0, (Snake.initial arg ch2).game, snake, ∅⟩

/-! ### What the functions do to a list -/

/-- `malloc` answers `NULL` to a statement that begins with the heap `h`: there are at most three
requests in it, and every one before has added a cell. -/
def Refused (m : Allocator Pos) (h : Heap Pos) : Prop :=
  ∃ h' : Heap Pos, h.size ≤ h'.size ∧ h'.size < h.size + 3 ∧ m.addr h' = none

section Spec

variable {m : Allocator Pos} {h : Heap Pos} {p : Ptr} {a : ℕ} {c pos : Pos} {l : List (ℕ × Pos)}
  {R : List ℕ}

lemma refused_of_null (hm : m.addr h = none) : Refused m h := ⟨h, le_rfl, by omega, hm⟩

lemma headAdd_null (hm : m.addr h = none) : headAdd m p pos h = none := by
  simp [headAdd, malloc_null hm, setVal, load]

lemma headAdd_spec (m : Allocator Pos) (ho : Owns h p l R) (pos : Pos) :
    (headAdd m p pos h = none ∧ m.addr h = none) ∨
    ∃ a h', headAdd m p pos h = some (some a, h') ∧ Changed h h' (some a) ((a, pos) :: l) R := by
  cases hm : m.addr h with
  | none => exact Or.inl ⟨headAdd_null hm, rfl⟩
  | some a =>
    refine Or.inr ⟨a, _, ?_, ho.cons (m.fresh h a hm)⟩
    simp only [headAdd, malloc_eq hm]
    rw [setVal_eq (AList.lookup_insert h), AList.insert_insert]
    simp only [Option.bind_eq_bind, Option.bind_some]
    rw [setNext_eq (AList.lookup_insert h), AList.insert_insert]
    rfl

lemma headDel_spec (ho : Owns h p ((a, c) :: l) R) :
    ∃ q h', headDel p h = some (q, h') ∧ Changed h h' q l R := by
  obtain ⟨q, rfl, hq, hch⟩ := ho.tail
  refine ⟨q, _, ?_, hch⟩
  have ha : a ∈ h := AList.lookup_isSome.1 (by rw [hq]; rfl)
  simp [headDel, load, hq, free_eq ha]

/-- The last cell of a list, where the loop of `tail_add` ends. -/
lemma last_cell (ho : Owns h p l R) (hne : l ≠ []) : ∃ l' b w, l = l' ++ [(b, w)] ∧
    h.last h.size p = some (some b) ∧ h.lookup b = some ⟨w, none⟩ := by
  rcases List.eq_nil_or_concat l with rfl | ⟨l', ⟨b, w⟩, rfl⟩
  · exact absurd rfl hne
  rw [List.concat_eq_append] at ho ⊢
  refine ⟨l', b, w, rfl, ?_, ?_⟩
  · have hlen := ho.length_le
    exact last_eq ho.seg (by simp at hlen; omega)
  · obtain ⟨r, -, rfl, q, hq, rfl⟩ := seg_append.1 ho.seg
    exact hq

lemma tailAdd_null (ho : Owns h p l R) (hne : l ≠ []) (hm : m.addr h = none) (pos : Pos) :
    tailAdd m p pos h = none := by
  obtain ⟨l, b, w, rfl, hlast, hb⟩ := last_cell ho hne
  simp [tailAdd, malloc_null hm, hlast, setNext_eq hb, load, setVal]

lemma tailAdd_spec (m : Allocator Pos) (ho : Owns h p l R) (hne : l ≠ []) (pos : Pos) :
    (tailAdd m p pos h = none ∧ m.addr h = none) ∨
    ∃ a h', tailAdd m p pos h = some h' ∧ Changed h h' p (l ++ [(a, pos)]) R := by
  cases hm : m.addr h with
  | none => exact Or.inl ⟨tailAdd_null ho hne hm pos, rfl⟩
  | some a =>
    obtain ⟨l, b, w, rfl, hlast, hb⟩ := last_cell ho hne
    have hfresh := m.fresh h a hm
    refine Or.inr ⟨a, _, ?_, ho.concat hfresh m.junk⟩
    have hab : a ≠ b := by
      rintro rfl
      exact hfresh (AList.lookup_isSome.1 (by rw [hb]; rfl))
    -- the last cell before and after the new one is linked to it
    have hb' : (h.insert a m.junk).lookup b = some ⟨w, none⟩ := by
      rw [AList.lookup_insert_ne hab.symm, hb]
    have ha : ((h.insert a m.junk).insert b ⟨w, some a⟩).lookup a = some m.junk := by
      rw [AList.lookup_insert_ne hab, AList.lookup_insert]
    simp only [tailAdd, malloc_eq hm, hlast, Option.bind_eq_bind, Option.bind_some]
    rw [setNext_eq hb']
    simp only [Option.bind_some, load, AList.lookup_insert]
    rw [setVal_eq ha]
    simp only [Option.bind_some, AList.lookup_insert_ne hab.symm, AList.lookup_insert]
    rw [setNext_eq (AList.lookup_insert _), AList.insert_insert]

lemma getTail_spec (ho : Owns h p (l ++ [(a, c)]) R) : getTail p h = some ⟨c, none⟩ := by
  have hlen := ho.length_le
  have hlast : h.last h.size p = some (some a) := last_eq ho.seg (by simp at hlen; omega)
  obtain ⟨r, -, rfl, q, hq, rfl⟩ := seg_append.1 ho.seg
  simp [getTail, hlast, load, hq]

lemma snakeGrow_spec (m : Allocator Pos) (ho : Owns h p ((a, c) :: l) R) :
    (snakeGrow m p h = none ∧ m.addr h = none) ∨
    ∃ b h', snakeGrow m p h = some (some b, h') ∧
      Changed h h' (some b) ((b, regrown c) :: (a, c) :: l) R := by
  have hadd : snakeGrow m p h = headAdd m p (regrown c) h := by
    obtain ⟨rfl, q, hq, -⟩ := ho.seg
    rw [snakeGrow, load, Option.bind_some, hq]
    obtain ⟨x, y, dir⟩ := c
    cases dir <;> simp [regrown, Pos.behind, Dir.ahead, Pos.xy, Dir.opp]
  rw [hadd]
  exact headAdd_spec m ho (regrown c)

lemma crashCheck_spec (ho : Owns h p l R) :
    crashCheck p h = some (Snake.crashCheck (l.map Prod.snd)) := by
  -- the outer loop has fewer turns to go than the heap has cells
  suffices hloop : ∀ (l' : List (ℕ × Pos)) (q : Ptr) (n : ℕ), Seg h none q l' → l'.length ≤ n →
      n ≤ h.size → h.any (fun temp => h.any (fun temp2 =>
        some (decide (temp.val.x = temp2.val.x ∧ temp.val.y = temp2.val.y))) h.size temp.next) n q =
          some (Snake.crashCheck (l'.map Prod.snd)) from
    hloop l p h.size ho.seg ho.length_le le_rfl
  intro l'
  induction l' with
  | nil =>
    intro q n hs _ _
    obtain rfl : q = none := hs
    cases n <;> rfl
  | cons x l' ih =>
    intro q n hs hlen hn
    obtain ⟨rfl, r, hr, hs⟩ := hs
    obtain ⟨n, rfl⟩ : ∃ k, n = k + 1 := ⟨n - 1, by simp at hlen; omega⟩
    rw [List.length_cons] at hlen
    have hinner := any_eq (n := h.size)
      (fun c' : Pos => decide (x.2.x = c'.x ∧ x.2.y = c'.y)) hs (by omega)
    rw [any, hr, Option.bind_some, hinner, Option.bind_some, List.map_cons, Snake.crashCheck]
    cases hany : (l'.map Prod.snd).any fun c' => decide (x.2.x = c'.x ∧ x.2.y = c'.y) with
    | true => rfl
    | false => exact ih r n hs (by omega) (by omega)

lemma crashSnakeCheck_spec (ho : Owns h p l R) (id : Player) (g : Game) :
    crashSnakeCheck p id g h = some (Snake.crashSnakeCheck (l.map Prod.snd) id g) :=
  any_eq (fun c : Pos => decide (c.x = (g.side id).snakeEnd.x ∧ c.y = (g.side id).snakeEnd.y))
    ho.seg ho.length_le

end Spec

/-! ### The lists of `main` -/

/-- A game with the lists `cells`. -/
def fill (cells : Player → List Pos) (g : Game) : Game :=
  { g with one := { g.one with snake := cells .one }, two := { g.two with snake := cells .two } }

section Fill

variable (cells : Player → List Pos) (g : Game) (id : Player) (e : Input)

lemma side_fill : (fill cells g).side id = { g.side id with snake := cells id } := by
  cases id <;> rfl

lemma initBonus_fill : initBonus (fill cells g) = fill cells (initBonus g) :=
  List.foldl_hom (fill cells) fun _ _ => rfl

lemma bonusCreate_fill : bonusCreate e (fill cells g) = (bonusCreate e g).map (fill cells) := by
  have hfree : freeSlot (fill cells g) = freeSlot g := rfl
  unfold bonusCreate
  rw [hfree]
  change (cRem e.rand.1 g.spawningRate).bind _ = _
  cases cRem e.rand.1 g.spawningRate with
  | none => rfl
  | some add =>
    simp only [Option.bind_eq_bind, Option.bind_some]
    have hguard : (add = 1 ∧ (fill cells g).nbBonus < (fill cells g).maxBonus) =
        (add = 1 ∧ g.nbBonus < g.maxBonus) := rfl
    by_cases hadd : add = 1 ∧ g.nbBonus < g.maxBonus
    · rw [if_pos hadd, if_pos (hguard ▸ hadd)]
      change (cRem e.rand.2.1 (g.maxX - 4)).bind _ = _
      cases cRem e.rand.2.1 (g.maxX - 4) with
      | none => rfl
      | some randX =>
        change (cRem e.rand.2.2 (g.maxY - 6)).bind _ = _
        simp only [Option.bind_some]
        cases cRem e.rand.2.2 (g.maxY - 6) with
        | none => rfl
        | some randY => cases freeSlot g <;> rfl
    · rw [if_neg hadd, if_neg (hguard ▸ hadd)]
      rfl

lemma steer_fill : steer id (fill cells g) = fill cells (steer id g) := by
  rw [steer_eq, steer_eq]
  have hplays : Plays (fill cells g) id = Plays g id := rfl
  by_cases hp : Plays g id
  · rw [if_pos hp, if_pos (hplays ▸ hp)]
    cases id <;> rfl
  · rw [if_neg hp, if_neg (hplays ▸ hp)]

/-- The statements that do not touch the lists. -/
def Listless : Pc → Prop
  | .initSnake _ | .snakeMove _ | .snakeDisp _ | .crashCheck _ | .bonusCheck _ => False
  | .crashSnakeCheck _ => False
  | _ => True

/-- They do the same whatever the lists are. -/
lemma step_fill {pc : Pc} (hpc : Listless pc) : Snake.step ⟨pc, fill cells g⟩ e =
    (Snake.step ⟨pc, g⟩ e).map fun d => ⟨d.pc, fill cells d.game⟩ := by
  cases pc with
  | initSnake id | snakeMove id | snakeDisp id | crashCheck id | bonusCheck id
  | crashSnakeCheck id => exact hpc.elim
  | menuDisp k =>
    simp only [Snake.step, menuTurn, Option.map_some]
    split_ifs <;> rfl
  | quitDisp k =>
    simp only [Snake.step, quitTurn, Option.map_some]
    split_ifs <;> rfl
  | initBonus =>
    simp only [Snake.step, initBonus_fill]
    rfl
  | getch =>
    by_cases htwo : g.nbPlayer = 2
    · simp only [Snake.step, if_pos htwo, if_pos (show (fill cells g).nbPlayer = 2 from htwo)]
      rfl
    · simp only [Snake.step, if_neg htwo, if_neg (show ¬ (fill cells g).nbPlayer = 2 from htwo)]
      rfl
  | pause =>
    have hguard : (((fill cells g).ch = USBKEY_FCT ∨ (fill cells g).ch2 = 27) ∧
        (fill cells g).start = false) = ((g.ch = USBKEY_FCT ∨ g.ch2 = 27) ∧ g.start = false) := rfl
    simp only [Snake.step, hguard]
    split_ifs <;> rfl
  | setDir id =>
    cases id <;> simp only [Snake.step, steer_fill] <;> rfl
  | scoreDisp id => cases id <;> rfl
  | bonusCreate =>
    simp only [Snake.step, bonusCreate_fill, Option.map_map]
    rfl
  | wallCheck id =>
    have h : wallCheck id (fill cells g) = wallCheck id g := by cases id <;> rfl
    simp only [Snake.step, h]
    cases wallCheck id g <;> rfl
  | _ => rfl

end Fill

lemma step_listless {c : MemConfig} (hpc : Listless c.pc) (e : MemInput) : step c e =
    (Snake.step ⟨c.pc, c.game⟩ e.toInput).map fun d => { c with pc := d.pc, game := d.game } := by
  obtain ⟨pc, g, snake, h⟩ := c
  cases pc with
  | initSnake id | snakeMove id | snakeDisp id | crashCheck id | bonusCheck id
  | crashSnakeCheck id => exact hpc.elim
  | _ => rfl

/-- The snake of the player has been made. -/
def Live (c : MemConfig) (p : Player) : Prop := stage p c.pc ≠ .unborn ∧ Plays c.game p

/-- The heap of `c` consists of the cells of `l`, in the order of the lists. -/
structure Stored (c : MemConfig) (l : Player → List (ℕ × Pos)) : Prop where
  seg : ∀ p, Live c p → Seg c.heap none (c.snake p) (l p)
  ne_nil : ∀ p, Live c p → l p ≠ []
  dead : ∀ p, ¬ Live c p → l p = []
  keys : c.heap.keys.Perm ((l .one).map Prod.fst ++ (l .two).map Prod.fst)
  second : Second c.pc → c.game.nbPlayer = 2

/-- The state of `main` that `c` stands for, if its lists are `l`. -/
def abs (c : MemConfig) (l : Player → List (ℕ × Pos)) : Config :=
  ⟨c.pc, fill (fun p => (l p).map Prod.snd) c.game⟩

def Shows (c : MemConfig) (C : Config) : Prop := ∃ l, Stored c l ∧ C = abs c l

section Stored

variable {c c' : MemConfig} {l : Player → List (ℕ × Pos)} {p : Player}

lemma Stored.perm (hst : Stored c l) (p : Player) :
    c.heap.keys.Perm ((l p).map Prod.fst ++ (l p.other).map Prod.fst) := by
  cases p
  · exact hst.keys
  · exact hst.keys.trans List.perm_append_comm

lemma Stored.owns (hst : Stored c l) (hp : Live c p) :
    Owns c.heap (c.snake p) (l p) ((l p.other).map Prod.fst) := ⟨hst.seg p hp, hst.perm p⟩

/-- Before a snake is made it has no cells. -/
lemma Stored.owns_nil (hst : Stored c l) (hp : ¬ Live c p) :
    Owns c.heap none [] ((l p.other).map Prod.fst) := by
  refine ⟨rfl, ?_⟩
  have hperm := hst.perm p
  rwa [hst.dead p hp] at hperm

lemma Stored.live (hst : Stored c l) (hstage : stage p c.pc ≠ .unborn)
    (hsecond : p = .two → Second c.pc) : Live c p := by
  refine ⟨hstage, ?_⟩
  cases p
  · exact Or.inl rfl
  · exact Or.inr (hst.second (hsecond rfl))

end Stored

/-! ### One step -/

lemma stage_eq_unborn {p : Player} {pc : Pc} : stage p pc = .unborn ↔
    (∃ k, pc = .menuDisp k) ∨ pc = .menu2Disp ∨ pc = .getmaxyxInit ∨ pc = .initSnake .one ∨
      pc = .initSnake .two ∧ p = .two := by
  cases pc with
  | initSnake id | snakeMove id | wallCheck id | crashCheck id | bonusCheck id =>
    cases id <;> cases p <;> simp [stage]
  | _ => simp [stage]

/-- A snake is made by its `init_snake` and by nothing else. -/
lemma next_unborn {n : ℕ} {pc pc' : Pc} {p : Player} (h : next n pc pc') (hpc : pc ≠ .initSnake p)
    (hp : p = .one ∨ n = 2) : stage p pc' = .unborn ↔ stage p pc = .unborn := by
  rw [stage_eq_unborn, stage_eq_unborn]
  unfold next at h
  split at h <;> cases p <;> grind

section Step

variable {c c' : MemConfig} {l : Player → List (ℕ × Pos)} {p : Player} {e : MemInput}

lemma live_step {C C' : Config} {i : Input} (h : Snake.step C i = some C')
    (hC : C.pc = c.pc ∧ C.game.nbPlayer = c.game.nbPlayer)
    (hC' : C'.pc = c'.pc ∧ C'.game.nbPlayer = c'.game.nbPlayer) (hpc : c.pc ≠ .initSnake p) :
    Live c' p ↔ Live c p := by
  have hplays : Plays c'.game p ↔ Plays c.game p := by
    unfold Plays
    rw [← hC'.2, ← hC.2, (step_leaves h).nbPlayer]
  unfold Live
  rw [hplays, ← hC.1, ← hC'.1]
  refine and_congr_left fun hp => not_congr (next_unborn (step_next h) (hC.1 ▸ hpc) ?_)
  rw [hC.2]
  exact hp

lemma second_step {C C' : Config} {i : Input} (h : Snake.step C i = some C')
    (hC : C.pc = c.pc ∧ C.game.nbPlayer = c.game.nbPlayer)
    (hC' : C'.pc = c'.pc ∧ C'.game.nbPlayer = c'.game.nbPlayer)
    (hsecond : Second c.pc → c.game.nbPlayer = 2) (hs : Second c'.pc) : c'.game.nbPlayer = 2 := by
  rw [← hC'.2, (step_leaves h).nbPlayer, hC.2]
  rcases next_second (step_next h) (hC'.1 ▸ hs) with hs | hn
  · exact hsecond (hC.1 ▸ hs)
  · exact hC.2 ▸ hn

/-- A statement that leaves the lists alone. -/
lemma Stored.same (hst : Stored c l) (hstep : Snake.step (abs c l) e.toInput = some (abs c' l))
    (hheap : c'.heap = c.heap) (hsnake : c'.snake = c.snake) (hpc : ∀ q, c.pc ≠ .initSnake q) :
    Stored c' l := by
  have hlive : ∀ q, Live c' q ↔ Live c q :=
    fun q => live_step hstep ⟨rfl, rfl⟩ ⟨rfl, rfl⟩ (hpc q)
  refine ⟨fun q hq => ?_, fun q hq => hst.ne_nil q ((hlive q).1 hq),
    fun q hq => hst.dead q (mt (hlive q).2 hq), ?_,
    second_step hstep ⟨rfl, rfl⟩ ⟨rfl, rfl⟩ hst.second⟩
  · rw [hheap, hsnake]
    exact hst.seg q ((hlive q).1 hq)
  · rw [hheap]
    exact hst.keys

/-- **A statement that changes the list of one player.** -/
theorem Stored.change {q : Ptr} {l' : List (ℕ × Pos)} (hst : Stored c l)
    (hstep : Snake.step (abs c l) e.toInput = some (abs c' (Function.update l p l')))
    (hch : Changed c.heap c'.heap q l' ((l p.other).map Prod.fst))
    (hsnake : c'.snake = Function.update c.snake p q) (hpc : c.pc ≠ .initSnake p.other)
    (hp : Live c' p) (hnil : l' ≠ []) : Stored c' (Function.update l p l') := by
  have hne : p.other ≠ p := by cases p <;> simp [Player.other]
  have hother : ∀ r, r ≠ p → r = p.other := by
    intro r hr
    cases r <;> cases p <;> first | rfl | exact absurd rfl hr
  have hlive : Live c' p.other ↔ Live c p.other :=
    live_step hstep ⟨rfl, rfl⟩ ⟨rfl, rfl⟩ hpc
  refine ⟨fun r hr => ?_, fun r hr => ?_, fun r hr => ?_, ?_,
    second_step hstep ⟨rfl, rfl⟩ ⟨rfl, rfl⟩ hst.second⟩
  · by_cases hrp : r = p
    · subst hrp
      rw [hsnake, Function.update_self, Function.update_self]
      exact hch.owns.seg
    · obtain rfl := hother r hrp
      rw [hsnake, Function.update_of_ne hne, Function.update_of_ne hne]
      -- the cells of the other snake are as before
      exact (hst.seg _ (hlive.1 hr)).frame fun x hx => hch.same x.1 (List.mem_map_of_mem hx)
  · by_cases hrp : r = p
    · subst hrp
      rwa [Function.update_self]
    · obtain rfl := hother r hrp
      rw [Function.update_of_ne hne]
      exact hst.ne_nil _ (hlive.1 hr)
  · have hrp : r ≠ p := by
      rintro rfl
      exact hr hp
    obtain rfl := hother r hrp
    rw [Function.update_of_ne hne]
    exact hst.dead _ (mt hlive.2 hr)
  · have hperm := hch.owns.keys
    cases p
    · exact hperm
    · exact hperm.trans List.perm_append_comm

lemma fill_update (g : Game) (p : Player) (s : Side) (l : Player → List (ℕ × Pos))
    (l' : List (ℕ × Pos)) : fill (fun r => (Function.update l p l' r).map Prod.snd) (g.setSide p s) =
      (fill (fun r => (l r).map Prod.snd) g).setSide p { s with snake := l'.map Prod.snd } := by
  cases p <;> rfl

/-! ### The statements that touch the lists -/

lemma initSnake_spec (m : Allocator Pos) (hst : Stored c l) (hp : ¬ Live c p) :
    (initSnake m p c = none ∧ Refused m c.heap) ∨
    ∃ q h' l', initSnake m p c = some (c.setSnake p q h' ⟨initRow p c.game, 3, .right⟩) ∧
      Changed c.heap h' q l' ((l p.other).map Prod.fst) ∧
      l'.map Prod.snd = initCells (initRow p c.game) := by
  have hsize₀ := (hst.owns_nil hp).size_eq
  rcases headAdd_spec m (hst.owns_nil hp) ⟨initRow p c.game, 3, .right⟩ with
    ⟨he₁, hm⟩ | ⟨a₁, h₁, he₁, hc₁⟩
  · exact Or.inl ⟨by simp [initSnake, he₁], refused_of_null hm⟩
  have hsize₁ := hc₁.owns.size_eq
  rcases headAdd_spec m hc₁.owns ⟨initRow p c.game, 2, .right⟩ with
    ⟨he₂, hm⟩ | ⟨a₂, h₂, he₂, hc₂⟩
  · exact Or.inl ⟨by simp [initSnake, he₁, he₂], h₁, by simp_all, by simp_all; omega, hm⟩
  have hsize₂ := hc₂.owns.size_eq
  rcases headAdd_spec m hc₂.owns ⟨initRow p c.game, 1, .right⟩ with
    ⟨he₃, hm⟩ | ⟨a₃, h₃, he₃, hc₃⟩
  · exact Or.inl ⟨by simp [initSnake, he₁, he₂, he₃], h₂, by simp_all, by simp_all; omega, hm⟩
  have htail := getTail_spec (l := [_, _]) hc₃.owns
  refine Or.inr ⟨_, h₃, _, ?_, hc₁.trans (hc₂.trans hc₃), rfl⟩
  simp [initSnake, he₁, he₂, he₃, htail]

lemma moveTo_spec (m : Allocator Pos) (hst : Stored c l) (hp : Live c p) (pos : Pos) :
    (moveTo m pos p c = none ∧ m.addr c.heap = none) ∨
    ∃ q h' l', moveTo m pos p c = some (c.setSnake p q h' pos) ∧
      Changed c.heap h' q l' ((l p.other).map Prod.fst) ∧
      l'.map Prod.snd = ((l p).map Prod.snd).tail ++ [pos] := by
  rcases tailAdd_spec m (hst.owns hp) (hst.ne_nil p hp) pos with ⟨he, hm⟩ | ⟨b, h₁, he₁, hc₁⟩
  · exact Or.inl ⟨by simp [moveTo, he], hm⟩
  obtain ⟨⟨a, v⟩, rest, hl⟩ := List.exists_cons_of_ne_nil (hst.ne_nil p hp)
  rw [hl, List.cons_append] at hc₁
  obtain ⟨q, h₂, he₂, hc₂⟩ := headDel_spec hc₁.owns
  refine Or.inr ⟨q, h₂, _, ?_, hc₁.trans hc₂, ?_⟩
  · simp [moveTo, he₁, he₂]
  · rw [hl]
    simp

lemma snakeMove_eq_moveTo (m : Allocator Pos) (dir : Dir) : snakeMove m dir p c =
    moveTo m (nextHead dir (c.game.side p)) p c := by
  unfold snakeMove nextHead Pos.advance Dir.heading Dir.ahead Pos.xy
  cases dir <;> cases (c.game.side p).snakeEnd.dir <;> simp [Dir.opp]

lemma snakeMove_fill {cells : Player → List Pos} (g : Game) (dir : Dir) (h : cells p ≠ []) :
    Snake.snakeMove dir ((fill cells g).side p) = { g.side p with
      snake := (cells p).tail ++ [nextHead dir (g.side p)]
      snakeEnd := nextHead dir (g.side p) } := by
  rw [side_fill, snakeMove_eq]
  unfold Snake.moveTo Snake.tailAdd Snake.headDel
  simp only [List.tail_append_of_ne_nil h]
  rfl

/-- **`bonus_check`** eats from the same slot, and grows the list in the heap. -/
lemma bonusCheck_spec (m : Allocator Pos) (hst : Stored c l) (hp : Live c p) :
    (bonusCheck m p c = none ∧ m.addr c.heap = none) ∨
    (bonusCheck m p c = some c ∧ Snake.bonusCheck p (abs c l).game = (abs c l).game) ∨
    ∃ q l' d, bonusCheck m p c = some d ∧ d.snake = Function.update c.snake p q ∧ l' ≠ [] ∧
      Changed c.heap d.heap q l' ((l p.other).map Prod.fst) ∧
      Snake.bonusCheck p (abs c l).game = (abs d (Function.update l p l')).game := by
  have hhit : hitSlot p (abs c l).game = hitSlot p c.game := by cases p <;> rfl
  obtain ⟨⟨a, v⟩, rest, hl⟩ := List.exists_cons_of_ne_nil (hst.ne_nil p hp)
  cases hslot : hitSlot p c.game with
  | none =>
    right
    left
    simp [bonusCheck, Snake.bonusCheck, hhit, hslot]
  | some i =>
    rcases snakeGrow_spec m (hl ▸ hst.owns hp) with ⟨he, hm⟩ | ⟨b, h', he, hch⟩
    · exact Or.inl ⟨by simp [bonusCheck, hslot, he], hm⟩
    right
    right
    refine ⟨some b, (b, regrown v) :: (a, v) :: rest, { c with
      game := eat i p c.game, snake := Function.update c.snake p (some b), heap := h' }, ?_, rfl,
        List.cons_ne_nil _ _, hch, ?_⟩
    · simp [bonusCheck, hslot, he]
    · have hgrow : Snake.snakeGrow ((l p).map Prod.snd) =
          ((b, regrown v) :: (a, v) :: rest).map Prod.snd := by
        rw [hl]
        exact snakeGrow_cons v (rest.map Prod.snd)
      simp only [Snake.bonusCheck, hhit, hslot]
      cases p <;> simp only [abs, fill, Game.side, Game.setSide, hgrow] <;> rfl

/-- Both machines take the step, and the lists in the heap are again those of `main`. -/
def Agrees (c : MemConfig) (l : Player → List (ℕ × Pos)) (e : MemInput) : Prop :=
  ∃ c' l', step c e = some c' ∧ Snake.step (abs c l) e.toInput = some (abs c' l') ∧ Stored c' l'

/-- The program ends at a pointer that `malloc` has answered, which is `NULL`. -/
def Starves (c : MemConfig) (e : MemInput) : Prop := step c e = none ∧ Refused e.malloc c.heap

lemma Agrees.of_change {q : Ptr} {l' : List (ℕ × Pos)} (hst : Stored c l) {d : MemConfig} {G : Game}
    (he : step c e = some (d.goto (after c.game c.pc)))
    (hstep : Snake.step (abs c l) e.toInput = some ⟨after c.game c.pc, G⟩)
    (hG : fill (fun r => (Function.update l p l' r).map Prod.snd) d.game = G)
    (hch : Changed c.heap d.heap q l' ((l p.other).map Prod.fst))
    (hsnake : d.snake = Function.update c.snake p q) (hpc : c.pc ≠ .initSnake p.other)
    (hp : stage p (after c.game c.pc) ≠ .unborn) (hplays : Plays c.game p) (hnil : l' ≠ []) :
    Agrees c l e := by
  have hstep' : Snake.step (abs c l) e.toInput =
      some (abs (d.goto (after c.game c.pc)) (Function.update l p l')) := by
    rw [hstep, ← hG]
    rfl
  refine ⟨_, _, he, hstep', hst.change hstep' hch hsnake hpc ⟨hp, ?_⟩ hnil⟩
  exact (step_plays hstep' p).2 hplays

lemma Agrees.of_same {d : MemConfig} (hst : Stored c l) (he : step c e = some d)
    (hstep : Snake.step (abs c l) e.toInput = some (abs d l)) (hheap : d.heap = c.heap)
    (hsnake : d.snake = c.snake) (hpc : ∀ q, c.pc ≠ .initSnake q) : Agrees c l e :=
  ⟨d, l, he, hstep, hst.same hstep hheap hsnake hpc⟩

lemma stage_after (g : Game) (p : Player) {pc : Pc} (h : ¬ Listless pc)
    (hpc : pc ≠ .initSnake p.other) : stage p (after g pc) ≠ .unborn := by
  rw [Ne, stage_eq_unborn]
  unfold after Game.ifTwo
  split <;> cases p <;> grind [Listless, Player.other]

lemma agrees_initSnake (hst : Stored c l) (hpc : c.pc = .initSnake p) :
    Starves c e ∨ Agrees c l e := by
  have hdead : ¬ Live c p := by
    rintro ⟨hstage, -⟩
    rw [hpc] at hstage
    cases p <;> exact hstage rfl
  have hplays : Plays c.game p := by
    cases p
    · exact Or.inl rfl
    · exact Or.inr (hst.second (by rw [hpc]; trivial))
  rcases initSnake_spec e.malloc hst hdead with ⟨he, hm⟩ | ⟨q, h', l', he, hch, hcells⟩
  · exact Or.inl ⟨by simp [step, hpc, he], hm⟩
  right
  refine Agrees.of_change (d := c.setSnake p q h' ⟨initRow p c.game, 3, .right⟩)
    (G := Snake.initSnake p (abs c l).game) hst ?_ ?_ ?_ hch rfl ?_ (stage_after _ p ?_ ?_) hplays ?_
  · simp [step, hpc, he]
  · obtain ⟨pc, g, snake, heap⟩ := c
    obtain rfl : pc = .initSnake p := hpc
    cases p <;> rfl
  · rw [MemConfig.setSnake, fill_update, hcells]
    cases p <;> rfl
  · rw [hpc]
    cases p <;> simp [Player.other]
  · rw [hpc]
    exact id
  · rw [hpc]
    cases p <;> simp [Player.other]
  · rintro rfl
    cases hcells

lemma Stored.live_snakeMove (hst : Stored c l) (hpc : c.pc = .snakeMove p) : Live c p :=
  hst.live (by rw [hpc]; cases p <;> simp [stage]) (by rintro rfl; rw [hpc]; trivial)

lemma agrees_snakeMove (hst : Stored c l) (hpc : c.pc = .snakeMove p) :
    Starves c e ∨ Agrees c l e := by
  have hlive := hst.live_snakeMove hpc
  have hmove := moveTo_spec e.malloc hst hlive (nextHead (c.game.dirOf p) (c.game.side p))
  rw [← snakeMove_eq_moveTo] at hmove
  rcases hmove with ⟨he, hm⟩ | ⟨q, h', l', he, hch, hcells⟩
  · exact Or.inl ⟨by simp [step, hpc, he], refused_of_null hm⟩
  right
  refine Agrees.of_change (d := c.setSnake p q h' (nextHead (c.game.dirOf p) (c.game.side p)))
    (G := (abs c l).game.setSide p (Snake.snakeMove (c.game.dirOf p) ((abs c l).game.side p)))
    hst ?_ ?_ ?_ hch rfl ?_ (stage_after _ p ?_ ?_) hlive.2 ?_
  · simp [step, hpc, he]
  · obtain ⟨pc, g, snake, heap⟩ := c
    obtain rfl : pc = .snakeMove p := hpc
    cases p <;> rfl
  · rw [MemConfig.setSnake, fill_update, hcells, abs, snakeMove_fill]
    simpa using hst.ne_nil p hlive
  · simp [hpc]
  · rw [hpc]
    exact id
  · simp [hpc]
  · rintro rfl
    simp at hcells

/-- `snake_move` ends the program when `tail_add` gets no cell. -/
lemma snakeMove_null (hst : Stored c l) (hpc : c.pc = .snakeMove p)
    (hm : e.malloc.addr c.heap = none) : step c e = none := by
  have hlive := hst.live_snakeMove hpc
  have htail := tailAdd_null (hst.owns hlive) (hst.ne_nil p hlive) hm
    (nextHead (c.game.dirOf p) (c.game.side p))
  simp [step, hpc, snakeMove_eq_moveTo, moveTo, htail]

lemma agrees_bonusCheck (hst : Stored c l) (hpc : c.pc = .bonusCheck p) :
    Starves c e ∨ Agrees c l e := by
  have hlive : Live c p := hst.live (by rw [hpc]; cases p <;> simp [stage])
    (by rintro rfl; rw [hpc]; trivial)
  have hstep : Snake.step (abs c l) e.toInput =
      some ⟨after c.game c.pc, Snake.bonusCheck p (abs c l).game⟩ := by
    obtain ⟨pc, g, snake, heap⟩ := c
    obtain rfl : pc = .bonusCheck p := hpc
    cases p <;> rfl
  rcases bonusCheck_spec e.malloc hst hlive with
    ⟨he, hm⟩ | ⟨he, hgame⟩ | ⟨q, l', d, he, hsnake, hnil, hch, hgame⟩
  · exact Or.inl ⟨by simp [step, hpc, he], refused_of_null hm⟩
  · right
    refine Agrees.of_same (d := c.goto (after c.game c.pc)) hst ?_ ?_ rfl rfl (by simp [hpc])
    · simp [step, hpc, he]
    · rw [hstep, hgame]
      rfl
  · right
    refine Agrees.of_change hst ?_ hstep hgame.symm hch hsnake (by simp [hpc])
      (stage_after _ p ?_ ?_) hlive.2 hnil
    · simp [step, hpc, he]
    · rw [hpc]
      exact id
    · simp [hpc]

lemma agrees_snakeDisp (hst : Stored c l) (hpc : c.pc = .snakeDisp p) : Agrees c l e := by
  have hlive : Live c p := hst.live (by rw [hpc]; cases p <;> simp [stage])
    (by rintro rfl; rw [hpc]; trivial)
  have hvalues := values_eq (hst.seg p hlive) (hst.owns hlive).length_le
  refine Agrees.of_same (d := MemConfig.goto (after c.game c.pc) { c with
    game := mvprintw (((l p).map Prod.snd).map fun p => ⟨p.x, p.y, "o"⟩) c.game }) hst ?_ ?_ rfl rfl
      (by simp [hpc])
  · simp [step, hpc, snakeDisp, hvalues]
  · obtain ⟨pc, g, snake, heap⟩ := c
    obtain rfl : pc = .snakeDisp p := hpc
    cases p <;> rfl

/-- A check does not change anything, unless it ends the game. -/
lemma agrees_check {b : Bool} (hst : Stored c l)
    (he : step c e = some (if b then c.lose p else c.goto (after c.game c.pc)))
    (hstep : Snake.step (abs c l) e.toInput =
      some (if b then Snake.lose p (abs c l).game else ⟨after c.game c.pc, (abs c l).game⟩))
    (hpc : ∀ q, c.pc ≠ .initSnake q) : Agrees c l e := by
  cases b
  · exact Agrees.of_same hst he hstep rfl rfl hpc
  · exact Agrees.of_same hst he hstep rfl rfl hpc

lemma agrees_crashCheck (hst : Stored c l) (hpc : c.pc = .crashCheck p) : Agrees c l e := by
  have hlive : Live c p := hst.live (by rw [hpc]; cases p <;> simp [stage])
    (by rintro rfl; rw [hpc]; trivial)
  have hcrash := crashCheck_spec (hst.owns hlive)
  refine agrees_check hst (b := Snake.crashCheck ((l p).map Prod.snd)) (p := p) ?_ ?_ (by simp [hpc])
  · simp [step, hpc, hcrash]
  · obtain ⟨pc, g, snake, heap⟩ := c
    obtain rfl : pc = .crashCheck p := hpc
    cases p <;> rfl

lemma agrees_crashSnakeCheck (hst : Stored c l) (hpc : c.pc = .crashSnakeCheck p) :
    Agrees c l e := by
  have hlive : Live c p.other :=
    hst.live (by rw [hpc]; simp [stage]) (by rw [hpc]; exact fun _ => trivial)
  have hcrash := crashSnakeCheck_spec (hst.owns hlive) p c.game
  refine agrees_check hst (b := Snake.crashSnakeCheck ((l p.other).map Prod.snd) p c.game) (p := p)
    ?_ ?_ (by simp [hpc])
  · simp [step, hpc, hcrash]
  · obtain ⟨pc, g, snake, heap⟩ := c
    obtain rfl : pc = .crashSnakeCheck p := hpc
    cases p <;> rfl

/-- **One step.** The two machines do the same: neither can go on, or both do, and the lists in the
heap are again those of `main`. Only if `malloc` refuses a cell does `memory` stop alone. -/
theorem step_stored (hst : Stored c l) (e : MemInput) :
    (step c e = none ∧ Snake.step (abs c l) e.toInput = none) ∨ Starves c e ∨ Agrees c l e := by
  by_cases hpc : Listless c.pc
  · have hfill := step_fill (fun p => (l p).map Prod.snd) c.game e.toInput hpc
    have hlistless := step_listless hpc e
    cases hstep : Snake.step ⟨c.pc, c.game⟩ e.toInput with
    | none =>
      rw [hstep] at hfill hlistless
      exact Or.inl ⟨hlistless, hfill⟩
    | some d =>
      rw [hstep] at hfill hlistless
      refine Or.inr (Or.inr (Agrees.of_same hst hlistless hfill rfl rfl fun q hq => ?_))
      rw [hq] at hpc
      exact hpc
  · right
    cases hpc' : c.pc with
    | initSnake p => exact agrees_initSnake hst hpc'
    | snakeMove p => exact agrees_snakeMove hst hpc'
    | snakeDisp p => exact Or.inr (agrees_snakeDisp hst hpc')
    | crashCheck p => exact Or.inr (agrees_crashCheck hst hpc')
    | bonusCheck p => exact agrees_bonusCheck hst hpc'
    | crashSnakeCheck p => exact Or.inr (agrees_crashSnakeCheck hst hpc')
    | _ =>
      rw [hpc'] at hpc
      exact absurd trivial hpc

end Step

/-! ### Every run -/

section Run

variable {arg : List Char} {ch2 : ℤ} {snake : Player → Ptr} {es : List MemInput} {c : MemConfig}

lemma stored_initial : Stored (initial arg ch2 snake) fun _ => [] := by
  have hdead : ∀ p, ¬ Live (initial arg ch2 snake) p := fun p hp => hp.1 rfl
  exact ⟨fun p hp => absurd hp (hdead p), fun p hp => absurd hp (hdead p), fun _ _ => rfl,
    List.Perm.refl _, fun h => h.elim⟩

lemma Shows.step {C : Config} (h : Shows c C) (e : MemInput) :
    Option.Rel Shows (memory.step c e) (main.step C e.toInput) ∨
      memory.step c e = none ∧ Refused e.malloc c.heap := by
  obtain ⟨l, hst, rfl⟩ := h
  rcases step_stored hst e with ⟨hc, hC⟩ | hstarves | ⟨c', l', hc, hC, hst'⟩
  · left
    have hnone : memory.step c e = none ∧ main.step (abs c l) e.toInput = none := ⟨hc, hC⟩
    rw [hnone.1, hnone.2]
    exact Option.Rel.none
  · exact Or.inr hstarves
  · left
    have hsome : memory.step c e = some c' ∧ main.step (abs c l) e.toInput = some (abs c' l') :=
      ⟨hc, hC⟩
    rw [hsome.1, hsome.2]
    exact Option.Rel.some ⟨l', hst', rfl⟩

lemma run_shows (arg : List Char) (ch2 : ℤ) (snake : Player → Ptr) (es : List MemInput) :
    Option.Rel Shows (memory.run (initial arg ch2 snake) es)
      (main.run (Snake.initial arg ch2) (es.map MemInput.toInput)) ∨
    memory.run (initial arg ch2 snake) es = none ∧
      ∃ x ∈ memory.trace (initial arg ch2 snake) es, Refused x.2.malloc x.1.heap :=
  Machine.run_rel (M := memory) (N := main) (R := Shows)
    (F := fun c e => Refused e.malloc c.heap) (fun _ _ e h => h.step e) ⟨_, stored_initial, rfl⟩

lemma run_stored (hrun : memory.run (initial arg ch2 snake) es = some c) : ∃ l, Stored c l ∧
    main.run (Snake.initial arg ch2) (es.map MemInput.toInput) = some (abs c l) := by
  have hrel := run_shows arg ch2 snake es
  simp only [hrun, reduceCtorEq, false_and, or_false] at hrel
  generalize main.run _ _ = o at hrel ⊢
  cases hrel with
  | some h =>
    obtain ⟨l, hst, rfl⟩ := h
    exact ⟨l, hst, rfl⟩

/-- A snake has three cells and one more for every meal, from `init_snake` to the end of the
program. -/
def Measured (p : Player) (c : Config) : Prop :=
  if stage p c.pc = .unborn then (c.game.side p).score = 0
  else (c.game.side p).snake.length = 3 + (c.game.side p).score

lemma length_snakeMove (dir : Dir) {s : Side} (h : s.snake ≠ []) :
    (Snake.snakeMove dir s).snake.length = s.snake.length := by
  obtain ⟨a, rest, hs⟩ := List.exists_cons_of_ne_nil h
  rw [snakeMove_eq, moveTo_snake _ _ h, hs]
  simp

theorem Measured.step {p : Player} {C C' : Config} {i : Input} (h : Measured p C)
    (hp : Plays C.game p) (hstep : Snake.step C i = some C') : Measured p C' := by
  unfold Measured at *
  cases step_turn hp hstep with
  | born pc side before after =>
    rw [if_pos before] at h
    rw [after, side, if_neg (by decide), (tracks_initSnake p C.game h).length]
  | move pc side before after =>
    rw [before, if_neg (by decide)] at h
    have hne : (C.game.side p).snake ≠ [] := by
      intro hnil
      rw [hnil, List.length_nil] at h
      omega
    rw [after, side, if_neg (by decide), length_snakeMove _ hne, score_snakeMove]
    exact h
  | wall pc game ok before after =>
    rw [before, if_neg (by decide)] at h
    rwa [after, game, if_neg (by decide)]
  | crash pc game ok before after =>
    rw [before, if_neg (by decide)] at h
    rwa [after, game, if_neg (by decide)]
  | eat pc game before after =>
    rw [before, if_neg (by decide)] at h
    rw [after, game, if_neg (by decide)]
    rcases bonusCheck_cases C.game p with ⟨-, hg⟩ | ⟨i, -, hg⟩ <;> rw [hg]
    · exact h
    · show ((C.game.setSide p _).side p).snake.length = 3 + ((C.game.setSide p _).side p).score
      rw [side_setSide_self]
      obtain ⟨a, rest, hs⟩ : ∃ a rest, (C.game.side p).snake = a :: rest :=
        List.exists_cons_of_length_pos (by omega)
      rw [hs, List.length_cons] at h
      show (Snake.snakeGrow (C.game.side p).snake).length = 3 + ((C.game.side p).score + 1)
      rw [hs, snakeGrow_cons, List.length_cons, List.length_cons]
      omega
  | idle init move eat side same => rwa [same, side]
  | ends init move eat side after =>
    have hborn : stage p C.pc ≠ .unborn := by
      rw [Ne, ← next_unborn (step_next hstep) init hp, after]
      decide
    rw [if_neg hborn] at h
    rwa [after, side, if_neg (by decide)]

lemma run_measured {is : List Input} {C : Config} {p : Player}
    (hrun : main.run (Snake.initial arg ch2) is = some C) (hp : Plays C.game p) :
    Measured p C := by
  refine Machine.run_inv (I := fun C => Plays C.game p → Measured p C) ?_ ?_ hrun hp
  · intro _
    cases p <;> rfl
  · intro C i C' hC hstep hp
    have hp' := (step_plays hstep p).1 hp
    exact (hC hp').step hp' hstep

/-- **The heap holds the snakes and nothing else**: three cells and one for every meal, for every
player of the game, at every point after the snakes have been made. -/
theorem heap_size (hrun : memory.run (initial arg ch2 snake) es = some c)
    (hborn : ∀ p, stage p c.pc ≠ .unborn) :
    c.heap.size = ∑ p with Plays c.game p, (3 + (c.game.side p).score) := by
  obtain ⟨l, hst, hmain⟩ := run_stored hrun
  have hlen : ∀ p, (l p).length = if Plays c.game p then 3 + (c.game.side p).score else 0 := by
    intro p
    by_cases hp : Plays c.game p
    · have hm := run_measured hmain (p := p) hp
      rw [Measured, if_neg (show stage p (abs c l).pc ≠ .unborn from hborn p)] at hm
      have hside : (abs c l).game.side p = { c.game.side p with snake := (l p).map Prod.snd } :=
        side_fill _ _ _
      rw [hside, List.length_map] at hm
      rw [if_pos hp, hm]
    · rw [if_neg hp, hst.dead p fun hlive => hp hlive.2]
      rfl
  rw [Heap.size, hst.keys.length_eq, List.length_append, List.length_map, List.length_map, hlen,
    hlen, Finset.sum_filter]
  rfl

end Run

/-- An allocator that takes the addresses from above those in use. -/
def bump : Allocator Pos where
  addr h := some (h.keys.sum + 1)
  junk := ⟨⟨0, 0, .up⟩, none⟩
  fresh h a ha hmem := by
    obtain rfl := Option.some_inj.1 ha
    have hle := List.le_sum_of_mem (AList.mem_keys.1 hmem)
    omega

theorem heap_size_square : ∃ c, memory.run (initial ['1'] 0 fun _ => none)
    (squareRun.map fun e => ⟨e, bump⟩) = some c ∧ c.game.one.score = 2 ∧
      c.heap.size = ∑ p with Plays c.game p, (3 + (c.game.side p).score) := by
  have h : (memory.run (initial ['1'] 0 fun _ => none) (squareRun.map fun e => ⟨e, bump⟩)).map
      (fun c => (c.pc, c.game.one.score)) = some (.refresh, 2) := by decide +kernel
  obtain ⟨c, hc, hpc⟩ := Option.map_eq_some_iff.1 h
  obtain ⟨hpc, hscore⟩ := Prod.mk_inj.1 hpc
  exact ⟨c, hc, hscore, heap_size hc fun p => by rw [hpc]; cases p <;> decide⟩

end UsbJoystick.Snake.Memory
