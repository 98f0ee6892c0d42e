/-
This file draws pictures as text.
-/

import GridRobot.Figure.Basic
import GridRobot.Map

namespace GridRobot

def Fill.glyph : Fill → Char
  | .empty => Map.emptyGlyph
  | .wall => Map.wallGlyph
  | .beeper => Map.beeperGlyph

/-- A grid with the robot on it, row by row; a robot off the grid is not drawn. -/
def Grid.sketch (grid : Grid) (position : Cell) (facing : Direction) : String :=
  let rows := grid.map fun row => row.map Fill.glyph
  let drawn :=
    if 0 ≤ position.x && 0 ≤ position.y then
      rows.modify position.y.toNat fun row => row.set position.x.toNat (Map.glyph facing)
    else rows
  String.join (drawn.map fun row => String.ofList row ++ "\n")

def sketchSize (width height : Nat) : String :=
  let size := pictureSize width height
  s!"{size.1} x {size.2} half inches"

def sketchLegend (theme : Theme) : String :=
  ", ".intercalate ((Snapshot.legend theme).map fun entry => s!"{entry.1}: {entry.2}")

/-- The board stands between its title and what else belongs to the picture. -/
def Snapshot.sketch (snapshot : Snapshot) : String :=
  let size := sketchSize snapshot.width snapshot.height
  s!"{snapshot.title}\n{snapshot.grid.sketch snapshot.position snapshot.facing}" ++
    s!"{sketchLegend snapshot.theme}\n" ++
    s!"{size}, {resolution} dots per inch, {snapshot.lineCount} lines\n"

def Frame.sketch (frame : Frame) : String :=
  frame.title ++ "\n" ++ frame.grid.sketch frame.position frame.facing

/-- The frames of an animation follow each other with an empty line between them. -/
def Animation.sketch (animation : Animation) : String :=
  let kind := if isLoop animation.path then "loop" else "film"
  let size := sketchSize animation.width animation.height
  "\n".intercalate (animation.frames.map Frame.sketch) ++
    s!"{kind}, {size}, a frame every {interval animation.frameRate} ms\n"

namespace Figure

def sketch : Figure → String
  | .snapshot picture => picture.sketch
  | .animation film => film.sketch

def path : Figure → Path
  | .snapshot picture => picture.path
  | .animation film => film.path

end Figure

end GridRobot
