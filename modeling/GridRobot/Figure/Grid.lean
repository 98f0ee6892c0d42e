/-
This file paints a board as a grid of cell fills.
-/

import GridRobot.World.Basic

namespace GridRobot

inductive Fill where
  | empty
  | wall
  | beeper
  deriving DecidableEq, Repr

def Fill.code : Fill → Nat
  | .empty => 0
  | .wall => 1
  | .beeper => 2

/-- Rows from the top, each from the left. -/
abbrev Grid := List (List Fill)

namespace Grid

def blank (width height : Nat) : Grid :=
  List.replicate height (List.replicate width .empty)

/-- Paints one cell; a cell off the grid is passed over. -/
def paintCell (fill : Fill) (grid : Grid) (cell : Cell) : Grid :=
  if 0 ≤ cell.x && 0 ≤ cell.y then
    grid.modify cell.y.toNat fun row => row.set cell.x.toNat fill
  else grid

def paint (fill : Fill) (cells : List Cell) (grid : Grid) : Grid :=
  cells.foldl (paintCell fill) grid

/-- Beepers are painted over walls. -/
def build (width height : Nat) (walls beepers : List Cell) : Grid :=
  paint .beeper beepers (paint .wall walls (blank width height))

/-- The grid of signed dimensions, of which none may be negative. -/
def build? (width height : Int) (walls beepers : List Cell) : Option Grid :=
  if width < 0 || height < 0 then none
  else some (build width.toNat height.toNat walls beepers)

def ofWorld (world : World) : Grid :=
  build world.width world.height world.walls world.beepers

end Grid

end GridRobot
