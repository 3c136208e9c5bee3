import UsbJoystick.Lib.Machine
import UsbJoystick.Snake.Defs

/-!
`main` of `SimpleSnake/game.c` as a machine.

A program point `Pc` stands before one statement of `main`, or before one turn of the loop of a
menu; a step executes that statement on the answers the outside world gives to it. The
environment is free to answer anything at every step, so the runs of `main` are the runs of the
program for any keys, any results of `rand()` and any sizes of the terminal.

`break` goes to `epilogue` with the local `loose` set. The remainder by zero in `bonus_create`
kills the process, and there is no step then.
-/

namespace UsbJoystick.Snake

open UsbJoystick.Lib

inductive Pc where
  | menuDisp (highlight : ℤ) -- in the loop of `menu_disp`
  | menu2Disp
  | getmaxyxInit -- `getmaxyx` before the snakes are made
  | initSnake (id : Player)
  | initBonus
  | getmaxyx -- the top of the game loop
  | keyPressed
  | getch
  | pause -- the test that opens the pause menu
  | quitOpen -- the call of `quit_disp`
  | quitDisp (highlight : ℤ) -- in the loop of `quit_disp`
  | setDir (id : Player)
  | uiDraw
  | scoreDisp (id : Player)
  | bonusCreate
  | bonusDisp
  | snakeMove (id : Player)
  | snakeDisp (id : Player)
  | wallCheck (id : Player)
  | crashCheck (id : Player)
  | bonusCheck (id : Player)
  | crashSnakeCheck (id : Player) -- the head of `id` against the other list
  | refresh -- the end of a frame that does not end the game
  | epilogue -- after the loop
  | halt
  deriving DecidableEq, Repr

structure Config where
  pc : Pc
  game : Game

def lose (id : Player) (g : Game) : Config := ⟨.epilogue, { g with loose := some id }⟩

def menuTurn (highlight : ℤ) (e : Input) (g : Game) : Config :=
  let choice : ℤ := e.key.toNat
  let highlight := moveHighlight 4 choice highlight
  if choice = USBKEY_FCT then
    ⟨.menu2Disp, { g with spawningRate := spawningRateOf highlight g.spawningRate }⟩
  else ⟨.menuDisp highlight, g⟩

def unpause (g : Game) : Config := ⟨.setDir .one, { g with start := false }⟩

/-- One turn of the loop of `quit_disp`: `RESUME` goes on, `QUIT` breaks out of the game. -/
def quitTurn (highlight : ℤ) (e : Input) (g : Game) : Config :=
  let choice : ℤ := e.key.toNat
  let highlight := moveHighlight 2 choice highlight
  if choice = USBKEY_FCT then
    if highlight = 0 then unpause (usbSend 48 (usbSend 48 g))
    else if highlight = 1 then ⟨.epilogue, g⟩
    else ⟨.quitDisp highlight, g⟩
  else ⟨.quitDisp highlight, g⟩

/-- The guarded calls of `set_dir`. -/
def steer (id : Player) (g : Game) : Game :=
  match id with
  | .one =>
    if g.ch = USBKEY_UP ∨ g.ch = USBKEY_DOWN ∨ g.ch = USBKEY_LEFT ∨ g.ch = USBKEY_RIGHT then
      setDir g.ch .one g
    else g
  | .two =>
    if g.nbPlayer = 2 then
      if g.ch2 = KEY_UP ∨ g.ch2 = KEY_DOWN ∨ g.ch2 = KEY_LEFT ∨ g.ch2 = KEY_RIGHT then
        setDir g.ch2 .two g
      else g
    else g

/-- The next program point, `second` where the source guards it with `nb_player == 2`. -/
def Game.ifTwo (g : Game) (second otherwise : Pc) : Pc :=
  if g.nbPlayer = 2 then second else otherwise

def step (c : Config) (e : Input) : Option Config :=
  let g := c.game
  match c.pc with
  | .menuDisp highlight => some (menuTurn highlight e g)
  | .menu2Disp => some ⟨.getmaxyxInit, menu2Disp e g⟩
  | .getmaxyxInit => some ⟨.initSnake .one, getmaxyx e g⟩
  | .initSnake .one => some ⟨g.ifTwo (.initSnake .two) .initBonus, initSnake .one g⟩
  | .initSnake .two => some ⟨.initBonus, initSnake .two g⟩
  | .initBonus => some ⟨.getmaxyx, initBonus g⟩
  | .getmaxyx => some ⟨.keyPressed, getmaxyx e g⟩
  | .keyPressed => some ⟨.getch, { g with ch := e.key.toNat }⟩
  | .getch => some ⟨.pause, if g.nbPlayer = 2 then { g with ch2 := e.getch } else g⟩
  | .pause =>
    if (g.ch = USBKEY_FCT ∨ g.ch2 = 27) ∧ g.start = false then
      some ⟨.quitOpen, usbSend 49 (usbSend 49 g)⟩
    else some (unpause g)
  | .quitOpen => some ⟨.quitDisp 0, getmaxyx e g⟩
  | .quitDisp highlight => some (quitTurn highlight e g)
  | .setDir .one => some ⟨.setDir .two, steer .one g⟩
  | .setDir .two => some ⟨.uiDraw, steer .two g⟩
  | .uiDraw => some ⟨.scoreDisp .one, uiDraw { g with screen := [] }⟩
  | .scoreDisp .one => some ⟨g.ifTwo (.scoreDisp .two) .bonusCreate, scoreDisp .one g⟩
  | .scoreDisp .two => some ⟨.bonusCreate, scoreDisp .two g⟩
  | .bonusCreate => (bonusCreate e g).map fun g' => ⟨.bonusDisp, g'⟩
  | .bonusDisp => some ⟨.snakeMove .one, bonusDisp g⟩
  | .snakeMove .one =>
    some ⟨g.ifTwo (.snakeMove .two) (.snakeDisp .one), g.setSide .one (snakeMove g.dir g.one)⟩
  | .snakeMove .two => some ⟨.snakeDisp .one, g.setSide .two (snakeMove g.dirB g.two)⟩
  | .snakeDisp .one => some ⟨g.ifTwo (.snakeDisp .two) (.wallCheck .one), snakeDisp .one g⟩
  | .snakeDisp .two => some ⟨.wallCheck .one, snakeDisp .two g⟩
  | .wallCheck id => some (if wallCheck id g then lose id g else ⟨.crashCheck id, g⟩)
  | .crashCheck id =>
    some (if crashCheck (g.side id).snake then lose id g else ⟨.bonusCheck id, g⟩)
  | .bonusCheck .one => some ⟨g.ifTwo (.wallCheck .two) .refresh, bonusCheck .one g⟩
  | .bonusCheck .two => some ⟨.crashSnakeCheck .two, bonusCheck .two g⟩
  | .crashSnakeCheck .two =>
    some (if crashSnakeCheck g.one.snake .two g then lose .two g else ⟨.crashSnakeCheck .one, g⟩)
  | .crashSnakeCheck .one =>
    some (if crashSnakeCheck g.two.snake .one g then lose .one g else ⟨.refresh, g⟩)
  | .refresh => some ⟨.getmaxyx, g⟩
  | .epilogue => some ⟨.halt, usbSend 48 (usbSend 48 g)⟩
  | .halt => none

/-- `main`, after `init_usb`. -/
def main : Machine Config Input where
  step := step

/-- `nb_player`, from the argument of the program, if it is in the range of an `int`. -/
def nbPlayerOf (arg : List Char) : ℕ := if atoi arg = 2 then 2 else 1

def emptySide : Side := ⟨[], ⟨0, 0, .right⟩, 0⟩

/-- The program before its first menu: the globals have their initial values, and the local
`ch2` has whatever the stack held. -/
def initial (arg : List Char) (ch2 : ℤ) : Config where
  pc := .menuDisp 0
  game :=
    { nbPlayer := nbPlayerOf arg
      one := emptySide
      two := emptySide
      dir := .right
      dirB := .right
      maxBonus := 0
      spawningRate := 0
      nbBonus := 0
      maxX := 0
      maxY := 0
      bonusList := Vector.replicate MAX_BONUS ⟨0, 0, false⟩
      ch := 0
      ch2 := ch2
      start := true
      loose := none
      screen := []
      usbOut := [] }

/-! ### Runs written frame by frame -/

/-- The inputs of a game of `n` players in a window that keeps its size: both menus, answered
with `LOW` and `amount`, and then for every frame the joystick key, the keyboard key and the
results of `rand()`. -/
def gameInputs (n : ℕ) (window : ℤ × ℤ) (amount : List Char)
    (frames : List (UInt8 × ℤ × ℕ × ℕ × ℕ)) : List Input :=
  List.replicate (if n = 2 then 6 else 5) { window := window, key := 33, line := amount } ++
    frames.flatMap fun f => List.replicate (if n = 2 then 24 else 16)
      { window := window, key := f.1, getch := f.2.1, rand := f.2.2 }

/-- One player in a window of eight rows and columns turns down onto a bonus and then goes once
around a square of four cells. -/
def squareRun : List Input :=
  (gameInputs 1 (8, 8) ['3'] [(40, -1, 1, 1, 0), (48, -1, 0, 0, 0), (36, -1, 0, 0, 0),
    (34, -1, 0, 0, 0), (40, -1, 0, 0, 0)]).dropLast

/-- Two players in such a window: player 1 eats a bonus in the first frame, player 2 in the
second. -/
def duelRun : List Input :=
  (gameInputs 2 (8, 8) ['3'] [(40, 259, 1, 1, 0), (48, 261, 1, 2, 1)]).dropLast

end UsbJoystick.Snake
