/-
This file holds pictures of the board: still ones, and animations of traces.
-/

import GridRobot.Figure.Grid
import GridRobot.Path
import GridRobot.Theme
import GridRobot.Trace.Basic

namespace GridRobot

/-- The size of a picture in half inches: a half inch for each cell, and three inches at least. -/
def pictureSize (width height : Nat) : Nat × Nat :=
  (max 6 width, max 6 height)

structure Snapshot where
  title : String
  width : Nat
  height : Nat
  grid : Grid
  position : Cell
  facing : Direction
  theme : Theme
  path : Path
  deriving Repr

namespace Snapshot

def resolution : Nat := 150

/-- Grid lines stand around every row and column; the robot's marker is one more line. -/
def lineCount (snapshot : Snapshot) : Nat :=
  (snapshot.width + 1) + (snapshot.height + 1) + 1

def legend (theme : Theme) : List (String × String) :=
  [("Wall", theme.wall), ("Beeper", theme.beeper), ("Robot", theme.robot)]

/-- An empty title counts as none. -/
def titleOf (world : World) : Option String → String
  | none | some "" => s!"bag={world.robot.bag}  steps={world.steps}"
  | some title => title

def ofWorld (world : World) (path : Path) (title : Option String) (theme : Theme) : Snapshot :=
  { title := titleOf world title
    width := world.width
    height := world.height
    grid := Grid.ofWorld world
    position := world.robot.position
    facing := world.robot.facing
    theme := theme
    path := path }

end Snapshot

/-- One picture of an animation, with the cells visited up to it. -/
structure Frame where
  title : String
  grid : Grid
  position : Cell
  facing : Direction
  visited : List Cell
  deriving Repr

structure Animation where
  frameRate : Nat
  frames : List Frame
  width : Nat
  height : Nat
  theme : Theme
  path : Path
  deriving Repr

inductive Figure where
  | snapshot (snapshot : Snapshot)
  | animation (animation : Animation)
  deriving Repr

namespace Animation

/-- The time between frames in milliseconds. -/
def interval (frameRate : Nat) : Nat :=
  max 1 (1000 / frameRate)

def lowerAscii (text : String) : String :=
  String.ofList (text.toList.map Char.toLower)

/-- Whether the picture format is the one for short loops, which the file's suffix decides. -/
def isLoop (path : Path) : Bool :=
  lowerAscii path.suffix = ".gif"

/-- The beepers on the board after one row of a trace. -/
def replayRow (beepers : List Cell) (cell : Cell) (action : WideString) : List Cell :=
  if action = Action.pickBeeper.name && beepers.contains cell then beepers.erase cell
  else if action = Action.putBeeper.name then beepers ++ [cell]
  else beepers

/-- The beepers on the board after each row of a trace. -/
def replay : List Cell → List (Cell × WideString) → List (List Cell)
  | _, [] => []
  | beepers, (cell, action) :: rest =>
    let next := replayRow beepers cell action
    next :: replay next rest

def cellOf (row : TraceRow) : Cell :=
  ⟨row.x, row.y⟩

/-- The rows in the order of their steps; rows of one step keep their order. -/
def inOrder (rows : List TraceRow) : List TraceRow :=
  rows.mergeSort fun first second => first.step ≤ second.step

/-- The rows of one run, or of all. -/
def ofRun (runId : Option WideString) (rows : List TraceRow) : List TraceRow :=
  match runId with
  | none => rows
  | some name => rows.filter fun row => row.runId = name

/-- The frames of rows whose beepers are known; `visited` holds the cells before, last first. -/
def framesFrom (world : World) :
    List Cell → List (TraceRow × List Cell) → Except Failure (List Frame)
  | _, [] => .ok []
  | visited, (row, beepers) :: rest =>
    match Direction.ofName? row.facing with
    | none => .error (.unknownFacing row.facing)
    | some facing =>
      let reached := cellOf row :: visited
      match framesFrom world reached rest with
      | .error failure => .error failure
      | .ok frames =>
        .ok ({
          title := s!"step={row.step}  {row.action.shown}  bag={row.bag}"
          grid := Grid.build world.width world.height world.walls beepers
          position := cellOf row
          facing := facing
          visited := reached.reverse } :: frames)

/-- One frame for each row, over the board that the trace starts from. -/
def framesOf (world : World) (rows : List TraceRow) : Except Failure (List Frame) :=
  let boards := replay world.beepers (rows.map fun row => (cellOf row, row.action))
  framesFrom world [] (rows.zip boards)

end Animation

end GridRobot
