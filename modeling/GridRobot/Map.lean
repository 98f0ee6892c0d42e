/-
This file reads a world from a map of characters and draws it as one.
-/

import GridRobot.World.Basic

namespace GridRobot

inductive MapProblem where
  | empty
  | emptyFirstRow
  | unevenRow (row : Nat)
  | manyRobots
  | unknownCharacter (char : Char) (row column : Nat)
  | noRobot
  | noFile (path : String)
  deriving DecidableEq, Repr

/-- A problem with the one-based number of the row that shows it. -/
structure MapError where
  problem : MapProblem
  line : Option Nat := none
  deriving DecidableEq, Repr

namespace Map

def emptyGlyph : Char := '.'

def wallGlyph : Char := '#'

def beeperGlyph : Char := '*'

def glyph : Direction → Char
  | .north => '^'
  | .south => 'v'
  | .west => '<'
  | .east => '>'

def facing? (char : Char) : Option Direction :=
  Direction.all.find? fun direction => glyph direction = char

def isEmptyGlyph (char : Char) : Bool :=
  char = emptyGlyph || char = ' '

/-- What has been read of a map; walls and beepers are in reverse. -/
structure Reading where
  walls : List Cell := []
  beepers : List Cell := []
  robot : Option Robot := none
  deriving Repr

/-- Reads the characters of row `y` from column `x` on. -/
def readRow (y : Nat) : Nat → List Char → Reading → Except MapError Reading
  | _, [], reading => .ok reading
  | x, char :: rest, reading =>
    let cell : Cell := ⟨x, y⟩
    if isEmptyGlyph char then readRow y (x + 1) rest reading
    else if char = wallGlyph then
      readRow y (x + 1) rest { reading with walls := cell :: reading.walls }
    else if char = beeperGlyph then
      readRow y (x + 1) rest { reading with beepers := cell :: reading.beepers }
    else
      match facing? char, reading.robot with
      | some facing, none => readRow y (x + 1) rest { reading with robot := some ⟨cell, facing, 0⟩ }
      | some _, some _ => .error ⟨.manyRobots, some (y + 1)⟩
      | none, _ => .error ⟨.unknownCharacter char (y + 1) (x + 1), some (y + 1)⟩

/-- Reads the rows from row `y` on; each must be as wide as the first. -/
def readRows (width : Nat) : Nat → List String → Reading → Except MapError Reading
  | _, [], reading => .ok reading
  | y, row :: rest, reading =>
    if row.length ≠ width then .error ⟨.unevenRow (y + 1), some (y + 1)⟩
    else
      match readRow y 0 row.toList reading with
      | .error error => .error error
      | .ok next => readRows width (y + 1) rest next

def parse : List String → Except MapError World
  | [] => .error ⟨.empty, none⟩
  | first :: rest =>
    if first.length = 0 then .error ⟨.emptyFirstRow, none⟩
    else
      match readRows first.length 0 (first :: rest) {} with
      | .error error => .error error
      | .ok reading =>
        match reading.robot with
        | none => .error ⟨.noRobot, none⟩
        | some robot =>
          .ok {
            width := first.length
            height := rest.length + 1
            robot := robot
            walls := reading.walls.reverse
            beepers := reading.beepers.reverse }

/-- The robot hides what is under it, and a beeper hides a wall. -/
def charAt (world : World) (cell : Cell) : Char :=
  if cell = world.robot.position then glyph world.robot.facing
  else if world.beepers.contains cell then beeperGlyph
  else if world.walls.contains cell then wallGlyph
  else emptyGlyph

def drawRow (world : World) (y : Nat) : List Char :=
  (List.range world.width).map fun x : Nat => charAt world ⟨x, y⟩

def drawRows (world : World) : List String :=
  (List.range world.height).map fun y => String.ofList (drawRow world y)

/-- The board with a newline after every row. -/
def draw (world : World) : String :=
  String.join ((drawRows world).map (· ++ "\n"))

end Map

end GridRobot
