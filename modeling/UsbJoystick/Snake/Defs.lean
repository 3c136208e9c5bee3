import Mathlib.Tactic

/-!
The data and the functions of `SimpleSnake/game.c`, without its main loop.

A board position is a row and a column. The structures of the source name them the other way
round from one another: `Pos.x` is a row and `Pos.y` a column, whereas `Bonus.posX` is a column
and `Bonus.posY` a row, and `maxX`, `maxY` are the numbers of columns and of rows.

* The linked list of a snake is the list of its cells read from `*snake` to `NULL`: the first
  cell is the tail of the animal, the last one its head. `Side` puts together what the source
  keeps twice, for player 1 and (with the suffix `_b`) for player 2.
* A `for` loop over `bonus_list` that stops at the first slot with some property is a `find?`
  over the indices of the loop.
* What the program draws goes to `screen`, the calls of `mvprintw` since the last `clear`, and
  what it sends to the joystick goes to `usbOut`.
* Signed arithmetic is over `ℤ`, and a remainder by zero is `none`.
-/

namespace UsbJoystick.Snake

/-! ### Data -/

inductive Dir where
  | up | down | right | left
  deriving DecidableEq, Repr

/-- The `id` that the functions of the source dispatch on, `1` or `2`. -/
inductive Player where
  | one | two
  deriving DecidableEq, Repr

instance : Fintype Player := ⟨{.one, .two}, fun p => by cases p <;> simp⟩

def Player.other : Player → Player
  | .one => .two
  | .two => .one

structure Bonus where
  posX : ℤ
  posY : ℤ
  activ : Bool
  deriving DecidableEq, Repr

structure Pos where
  x : ℤ
  y : ℤ
  dir : Dir
  deriving DecidableEq, Repr

/-- The row and the column of a cell. -/
def Pos.xy (c : Pos) : ℤ × ℤ := (c.x, c.y)

structure Print where
  row : ℤ
  col : ℤ
  text : String
  deriving DecidableEq, Repr

/-- What there is of every player: the linked list, the cache `snake_end` of its last cell, and
the score. -/
structure Side where
  snake : List Pos
  snakeEnd : Pos
  score : ℕ
  deriving DecidableEq, Repr

abbrev MAX_BONUS : ℕ := 100

/-- The globals of the program and the locals of `main`. -/
structure Game where
  nbPlayer : ℕ
  one : Side
  two : Side
  dir : Dir
  dirB : Dir
  maxBonus : ℤ
  spawningRate : ℤ
  nbBonus : ℤ
  maxX : ℤ
  maxY : ℤ
  bonusList : Vector Bonus MAX_BONUS
  ch : ℤ
  ch2 : ℤ
  start : Bool
  loose : Option Player -- the local `loose`; `none` is its initial value `0`
  screen : List Print
  usbOut : List UInt8

/-- The answers of the outside world to one statement of the program. A statement reads those
it asks for. -/
structure Input where
  window : ℤ × ℤ := (24, 80) -- `getmaxyx(stdscr, y, x)`
  key : UInt8 := 0 -- `key_pressed()`
  getch : ℤ := -1 -- `getch()`
  line : List Char := [] -- the line that `mvwgetstr` reads
  rand : ℕ × ℕ × ℕ := (0, 0, 0) -- up to three successive results of `rand()`

/-! ### Keys -/

def USBKEY_LEFT : ℤ := 48
def USBKEY_RIGHT : ℤ := 34
def USBKEY_UP : ℤ := 36
def USBKEY_DOWN : ℤ := 40
def USBKEY_FCT : ℤ := 33

def KEY_DOWN : ℤ := 258
def KEY_UP : ℤ := 259
def KEY_LEFT : ℤ := 260
def KEY_RIGHT : ℤ := 261

/-! ### Access to the state -/

namespace Game

def side (g : Game) : Player → Side
  | .one => g.one
  | .two => g.two

def setSide (g : Game) (id : Player) (s : Side) : Game :=
  match id with
  | .one => { g with one := s }
  | .two => { g with two := s }

def dirOf (g : Game) : Player → Dir
  | .one => g.dir
  | .two => g.dirB

def slot (g : Game) (i : ℕ) : Bonus := g.bonusList[i]?.getD ⟨0, 0, false⟩

def setSlot (g : Game) (i : ℕ) (b : Bonus) : Game :=
  { g with bonusList := g.bonusList.setIfInBounds i b }

/-- The indices of the loops `for(i=0; i<max_bonus; i++)`. -/
def slots (g : Game) : List ℕ := List.range g.maxBonus.toNat

end Game

def Plays (g : Game) (id : Player) : Prop := id = .one ∨ g.nbPlayer = 2

instance (g : Game) (id : Player) : Decidable (Plays g id) := by unfold Plays; infer_instance

/-! ### Output -/

/-- `mvprintw` prints nothing when the cursor would leave the window. -/
def mvprintw (ps : List Print) (g : Game) : Game :=
  { g with screen := g.screen ++ ps.filter fun p =>
      decide (0 ≤ p.row ∧ p.row < g.maxY ∧ 0 ≤ p.col ∧ p.col < g.maxX) }

def usbSend (msg : UInt8) (g : Game) : Game := { g with usbOut := g.usbOut ++ [msg] }

def getmaxyx (e : Input) (g : Game) : Game := { g with maxY := e.window.1, maxX := e.window.2 }

/-! ### Steering -/

def setDir (c : ℤ) (id : Player) (g : Game) : Game :=
  match id with
  | .one =>
    if c = USBKEY_LEFT then { g with dir := .left }
    else if c = USBKEY_RIGHT then { g with dir := .right }
    else if c = USBKEY_UP then { g with dir := .up }
    else if c = USBKEY_DOWN then { g with dir := .down }
    else g
  | .two =>
    if c = KEY_LEFT then { g with dirB := .left }
    else if c = KEY_RIGHT then { g with dirB := .right }
    else if c = KEY_UP then { g with dirB := .up }
    else if c = KEY_DOWN then { g with dirB := .down }
    else g

/-! ### Drawing -/

def title : String := "Simple Snake v3.0"

/-- The calls of `mvprintw` in `UI_draw`, in order. -/
def uiDrawPrints (g : Game) : List Print :=
  ((List.range (g.maxX + 1).toNat).flatMap fun i =>
    [⟨1, i, "#"⟩, ⟨g.maxY - 2, i, "#"⟩]) ++
  ((List.range (g.maxY - 4).toNat).flatMap fun i =>
    [⟨i + 2, 0, "#"⟩, ⟨i + 2, g.maxX - 1, "#"⟩]) ++
  [⟨0, g.maxX.tdiv 2 - title.length / 2, title⟩]

def uiDraw (g : Game) : Game := mvprintw (uiDrawPrints g) g

def bonusDisp (g : Game) : Game :=
  mvprintw ((g.slots.filter fun i => (g.slot i).activ).map fun i =>
    ⟨(g.slot i).posY, (g.slot i).posX, "+"⟩) g

/-- The bytes that `sprintf(score_nb, "%d", score)` writes, the terminator included. -/
def scoreNb (id : Player) (g : Game) : List Char := (g.side id).score.repr.toList ++ ['\x00']

/-- The bytes of `score_txt` up to its terminator: the initialiser, then the number that
`strcat` appends. -/
def scoreTxt (id : Player) (g : Game) : List Char := "Score : ".toList ++ scoreNb id g

def scoreDisp (id : Player) (g : Game) : Game :=
  match id with
  | .one => mvprintw [⟨0, 0, String.ofList (scoreTxt .one g).dropLast⟩] g
  | .two => mvprintw [⟨g.maxY - 1, 0, String.ofList (scoreTxt .two g).dropLast⟩] g

def snakeDisp (id : Player) (g : Game) : Game :=
  mvprintw ((g.side id).snake.map fun c => ⟨c.x, c.y, "o"⟩) g

/-! ### The snakes -/

def headAdd (snake : List Pos) (pos : Pos) : List Pos := pos :: snake

def headDel (snake : List Pos) : List Pos := snake.tail

/-- `tail_add`: the new cell also goes to the cache of the head. -/
def tailAdd (pos : Pos) (s : Side) : Side := { s with snake := s.snake ++ [pos], snakeEnd := pos }

/-- `snake_grow` puts a cell behind the first one, on the side its `dir` points away from. -/
def snakeGrow : List Pos → List Pos
  | [] => []
  | first :: rest =>
    match first.dir with
    | .up => headAdd (first :: rest) ⟨first.x + 1, first.y, .up⟩
    | .down => headAdd (first :: rest) ⟨first.x - 1, first.y, .down⟩
    | .right => headAdd (first :: rest) ⟨first.x, first.y - 1, .right⟩
    | .left => headAdd (first :: rest) ⟨first.x, first.y + 1, .left⟩

/-- The pair of calls that ends every branch of `snake_move`. -/
def moveTo (pos : Pos) (s : Side) : Side :=
  { tailAdd pos s with snake := headDel (tailAdd pos s).snake }

def snakeMove (dir : Dir) (s : Side) : Side :=
  let posX := s.snakeEnd.x
  let posY := s.snakeEnd.y
  let dirL := s.snakeEnd.dir
  match dir with
  | .up =>
    if dirL = .down then moveTo ⟨posX + 1, posY, .down⟩ s else moveTo ⟨posX - 1, posY, .up⟩ s
  | .down =>
    if dirL = .up then moveTo ⟨posX - 1, posY, .up⟩ s else moveTo ⟨posX + 1, posY, .down⟩ s
  | .right =>
    if dirL = .left then moveTo ⟨posX, posY - 1, .left⟩ s else moveTo ⟨posX, posY + 1, .right⟩ s
  | .left =>
    if dirL = .right then moveTo ⟨posX, posY + 1, .right⟩ s else moveTo ⟨posX, posY - 1, .left⟩ s

def getTail (snake : List Pos) (h : snake ≠ []) : Pos := snake.getLast h

def initCells (row : ℤ) : List Pos :=
  headAdd (headAdd (headAdd [] ⟨row, 3, .right⟩) ⟨row, 2, .right⟩) ⟨row, 1, .right⟩

def initRow (id : Player) (g : Game) : ℤ :=
  match id with
  | .one => 2
  | .two => g.maxY - 3

def initSnake (id : Player) (g : Game) : Game :=
  g.setSide id { g.side id with
    snake := initCells (initRow id g)
    snakeEnd := getTail (initCells (initRow id g)) (by simp [initCells, headAdd]) }

/-! ### The checks of a frame -/

def wallCheck (id : Player) (g : Game) : Bool :=
  let e := (g.side id).snakeEnd
  decide (e.x ≤ 1) || decide (e.x ≥ g.maxY - 2) || decide (e.y ≤ 0) || decide (e.y ≥ g.maxX - 1)

/-- `crash_check` compares every cell with all those after it. -/
def crashCheck : List Pos → Bool
  | [] => false
  | c :: rest => rest.any (fun c' => decide (c.x = c'.x ∧ c.y = c'.y)) || crashCheck rest

def crashSnakeCheck (snake : List Pos) (id : Player) (g : Game) : Bool :=
  let e := (g.side id).snakeEnd
  snake.any fun c => decide (c.x = e.x ∧ c.y = e.y)

/-! ### The bonuses -/

/-- The remainder of C, which traps on zero and takes the sign of the dividend. -/
def cRem (a b : ℤ) : Option ℤ := if b = 0 then none else some (a.tmod b)

def freeSlot (g : Game) : Option ℕ := g.slots.find? fun i => !(g.slot i).activ

def bonusCreate (e : Input) (g : Game) : Option Game := do
  let addBonus ← cRem e.rand.1 g.spawningRate
  if addBonus = 1 ∧ g.nbBonus < g.maxBonus then
    let randX ← cRem e.rand.2.1 (g.maxX - 4)
    let randY ← cRem e.rand.2.2 (g.maxY - 6)
    let g' := match freeSlot g with
      | some i => g.setSlot i ⟨2 + randX, 3 + randY, true⟩
      | none => g
    return { g' with nbBonus := g.nbBonus + 1 }
  else return g

def initBonus (g : Game) : Game :=
  g.slots.foldl (fun g i => g.setSlot i ⟨0, 0, false⟩) g

/-- The slot lies on the cell of the head of `id`. The test does not look at `activ`. -/
def onHead (id : Player) (g : Game) (i : ℕ) : Bool :=
  decide ((g.side id).snakeEnd.x = (g.slot i).posY ∧ (g.side id).snakeEnd.y = (g.slot i).posX)

def hitSlot (id : Player) (g : Game) : Option ℕ := g.slots.find? fun i => onHead id g i

def bonusCheck (id : Player) (g : Game) : Game :=
  match hitSlot id g with
  | none => g
  | some i =>
    let s := g.side id
    let g' := g.setSide id { s with score := s.score + 1, snake := snakeGrow s.snake }
    { g'.setSlot i { g.slot i with activ := false } with nbBonus := g.nbBonus - 1 }

/-! ### The menus -/

/-- `highlight` after a key, in a menu of `n` lines. -/
def moveHighlight (n choice highlight : ℤ) : ℤ :=
  if choice = USBKEY_UP then if highlight - 1 = -1 then n - 1 else highlight - 1
  else if choice = USBKEY_DOWN then if highlight + 1 = n then 0 else highlight + 1
  else highlight

/-- `LOW`, `NORMAL`, `FAST`, `INSANE`. -/
def spawningRateOf (highlight rate : ℤ) : ℤ :=
  if highlight = 0 then 120 else if highlight = 1 then 80 else if highlight = 2 then 50
  else if highlight = 3 then 5 else rate

def isSpace (c : Char) : Bool := decide (c = ' ' ∨ 9 ≤ c.toNat ∧ c.toNat ≤ 13)

/-- `atoi`: blanks, a sign, then digits up to the first other character. The result is that of C if
it is in the range of an `int`, as it is for a line that `menu2_disp` has room for
(`abs_atoi_lt`). -/
def atoi (s : List Char) : ℤ :=
  let digits (t : List Char) : ℕ :=
    (t.takeWhile Char.isDigit).foldl (fun n c => 10 * n + (c.toNat - '0'.toNat)) 0
  match s.dropWhile isSpace with
  | '-' :: t => -(digits t)
  | '+' :: t => digits t
  | t => digits t

/-- `menu2_disp`, on a line of at most 7 characters: the array `amount` has room for 8 bytes, and
what `mvwgetstr` writes after them is not modelled. -/
def menu2Disp (e : Input) (g : Game) : Game :=
  let maxBonus := atoi e.line
  { g with maxBonus := if maxBonus > 100 then 100 else maxBonus }

end UsbJoystick.Snake
