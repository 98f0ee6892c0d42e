/-
This file holds the world: a bounded grid with walls, beepers and one robot.

Row zero is the top row, so the north is where the second coordinate decreases.
-/

import GridRobot.Numeral

namespace GridRobot

structure Cell where
  x : Int
  y : Int
  deriving DecidableEq, Repr

inductive Direction where
  | north
  | west
  | south
  | east
  deriving DecidableEq, Repr

namespace Direction

def left : Direction → Direction
  | .north => .west
  | .west => .south
  | .south => .east
  | .east => .north

def right : Direction → Direction
  | .north => .east
  | .west => .north
  | .south => .west
  | .east => .south

/-- Directions are numbered counter-clockwise from the north. -/
def number : Direction → Nat
  | .north => 0
  | .west => 1
  | .south => 2
  | .east => 3

theorem number_injective {first second : Direction} (same : first.number = second.number) : first = second := by
  cases first <;> cases second <;> first | rfl | cases same

theorem number_left (direction : Direction) : direction.left.number = (direction.number + 1) % 4 := by
  cases direction <;> rfl

theorem number_right (direction : Direction) : direction.right.number = (direction.number + 3) % 4 := by
  cases direction <;> rfl

def name : Direction → String
  | .north => "NORTH"
  | .west => "WEST"
  | .south => "SOUTH"
  | .east => "EAST"

def all : List Direction := [.north, .west, .south, .east]

def ofName? (name : String) : Option Direction :=
  all.find? fun direction => direction.name = name

end Direction

def Cell.isWritable (cell : Cell) : Bool :=
  Numeral.isWritable cell.x && Numeral.isWritable cell.y

/-- The cell next to a cell. -/
def Cell.neighbour (cell : Cell) : Direction → Cell
  | .north => ⟨cell.x, cell.y - 1⟩
  | .west => ⟨cell.x - 1, cell.y⟩
  | .south => ⟨cell.x, cell.y + 1⟩
  | .east => ⟨cell.x + 1, cell.y⟩

structure Robot where
  position : Cell
  facing : Direction
  bag : Int := 0
  deriving DecidableEq, Repr

namespace Robot

def front (robot : Robot) : Cell :=
  robot.position.neighbour robot.facing

def leftSide (robot : Robot) : Cell :=
  robot.position.neighbour robot.facing.left

def rightSide (robot : Robot) : Cell :=
  robot.position.neighbour robot.facing.right

end Robot

/-- A cell holds as many beepers as it has records in the list. -/
structure World where
  width : Nat
  height : Nat
  robot : Robot
  walls : List Cell := []
  beepers : List Cell := []
  steps : Nat := 0
  deriving DecidableEq, Repr

inductive WorldError where
  | dimensions
  | robotOutside (position : Cell)
  | negativeBag
  deriving DecidableEq, Repr

/-- Why the robot cannot carry out an action. -/
inductive RobotError where
  | frontBlocked
  | noBeeperHere (position : Cell)
  | emptyBag
  deriving DecidableEq, Repr

/-- What keeps an action from being carried out: an error of the robot, or that its wording holds a number which is
too long to be written. -/
inductive Hindrance where
  | robot (error : RobotError)
  | unwritable
  deriving DecidableEq, Repr

inductive Action where
  | move
  | turnLeft
  | pickBeeper
  | putBeeper
  deriving DecidableEq, Repr

namespace Action

def name : Action → String
  | .move => "move"
  | .turnLeft => "turnleft"
  | .pickBeeper => "pickbeeper"
  | .putBeeper => "putbeeper"

def all : List Action := [.move, .turnLeft, .pickBeeper, .putBeeper]

def ofName? (name : String) : Option Action :=
  all.find? fun action => action.name = name

end Action

namespace World

def inBounds (world : World) (cell : Cell) : Bool :=
  0 ≤ cell.x && cell.x < world.width && 0 ≤ cell.y && cell.y < world.height

/-- A cell is blocked if it lies off the grid or holds a wall. -/
def isBlocked (world : World) (cell : Cell) : Bool :=
  !world.inBounds cell || world.walls.contains cell

def beepersAt (world : World) (cell : Cell) : Nat :=
  world.beepers.count cell

def frontIsBlocked (world : World) : Bool :=
  world.isBlocked world.robot.front

def leftIsBlocked (world : World) : Bool :=
  world.isBlocked world.robot.leftSide

def rightIsBlocked (world : World) : Bool :=
  world.isBlocked world.robot.rightSide

def nextToBeeper (world : World) : Bool :=
  world.beepers.contains world.robot.position

def beeperInBag (world : World) : Bool :=
  0 < world.robot.bag

/-- A world needs at least one cell and a robot on the grid. -/
def create (width height : Int) (robot : Robot) (walls beepers : List Cell) :
    Except WorldError World :=
  let world : World := ⟨width.toNat, height.toNat, robot, walls, beepers, 0⟩
  if width < 1 || height < 1 then .error .dimensions
  else if !world.inBounds robot.position then .error (.robotOutside robot.position)
  else .ok world

def setBag (world : World) (bag : Int) : Except WorldError World :=
  if bag < 0 then .error .negativeBag else .ok { world with robot.bag := bag }

/-- Without a beeper here, the error tells the position if it can be written. -/
def missingBeeper (world : World) : Hindrance :=
  if world.robot.position.isWritable then .robot (.noBeeperHere world.robot.position)
  else .unwritable

/-- Every action that succeeds is one step; an action that fails changes nothing. -/
def perform (world : World) : Action → Except Hindrance World
  | .move =>
    if world.frontIsBlocked then .error (.robot .frontBlocked)
    else .ok { world with robot.position := world.robot.front, steps := world.steps + 1 }
  | .turnLeft =>
    .ok { world with robot.facing := world.robot.facing.left, steps := world.steps + 1 }
  | .pickBeeper =>
    if world.nextToBeeper then
      .ok { world with
        beepers := world.beepers.erase world.robot.position
        robot.bag := world.robot.bag + 1
        steps := world.steps + 1 }
    else .error world.missingBeeper
  | .putBeeper =>
    if world.beeperInBag then
      .ok { world with
        beepers := world.beepers ++ [world.robot.position]
        robot.bag := world.robot.bag - 1
        steps := world.steps + 1 }
    else .error (.robot .emptyBag)

/-- The worlds after each of a list of actions, up to the first that fails. -/
def history (world : World) : List Action → List (Action × World)
  | [] => []
  | action :: rest =>
    match world.perform action with
    | .error _ => []
    | .ok next => (action, next) :: next.history rest

end World

end GridRobot
