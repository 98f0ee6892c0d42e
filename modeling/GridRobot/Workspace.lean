/-
This file holds what a command works on: files, output streams, pauses and pictures.
-/

import GridRobot.FileTree
import GridRobot.Figure.Basic

namespace GridRobot

/-- What the console gets to see. -/
inductive Showing where
  | text (text : String)
  | pause (milliseconds : Nat)
  deriving DecidableEq, Repr

/-- `directory` is the place that relative paths start from, and `shown` is kept last first. A pause is bounded by
what the clock can count, in milliseconds; a clock that only notes the pauses has no bound. -/
structure Workspace where
  files : FileTree
  directory : List String
  longestPause : Option Nat := some 9223372036854
  shown : List Showing := []
  errors : String := ""
  figures : List Figure := []
  deriving Repr

/-- Something done in a workspace; a failure keeps what was done before it. -/
abbrev Job := EStateM Failure Workspace

namespace Workspace

def print (text : String) (workspace : Workspace) : Workspace :=
  { workspace with shown := .text text :: workspace.shown }

def pause (milliseconds : Nat) (workspace : Workspace) : Workspace :=
  { workspace with shown := .pause milliseconds :: workspace.shown }

/-- A number of milliseconds whose seconds are above all floating-point numbers. -/
def isBeyondFloats (milliseconds : Nat) : Bool :=
  0x3fffffffffffff ≤ (milliseconds / 1000) >>> 970

/-- Pauses unless the time cannot be counted. -/
def sleep (milliseconds : Nat) (workspace : Workspace) : Except Overflow Workspace :=
  if isBeyondFloats milliseconds then .error .quotient
  else if workspace.longestPause.any (· < milliseconds) then .error .pause
  else .ok (workspace.pause milliseconds)

def printError (text : String) (workspace : Workspace) : Workspace :=
  { workspace with errors := workspace.errors ++ text }

/-- All that was printed. -/
def output (workspace : Workspace) : String :=
  String.join (workspace.shown.reverse.filterMap fun
    | .text text => some text
    | .pause _ => none)

/-- The pauses in milliseconds. -/
def pauses (workspace : Workspace) : List Nat :=
  workspace.shown.reverse.filterMap fun
    | .text _ => none
    | .pause milliseconds => some milliseconds

end Workspace

namespace Job

def ofExcept {α : Type} : Except Failure α → Job α
  | .ok value => pure value
  | .error failure => throw failure

def ofFiles {α : Type} (operation : FileTree → List String → Except Failure α) : Job α := do
  let workspace ← get
  ofExcept (operation workspace.files workspace.directory)

def changeFiles (operation : FileTree → List String → Except FileError FileTree) : Job Unit := do
  let workspace ← get
  match operation workspace.files workspace.directory with
  | .ok files => set { workspace with files := files }
  | .error error => throw (.file error)

/-- Makes the directory of a path; directories that were made before an error stay. -/
def ensureParent (path : Path) : Job Unit := do
  let workspace ← get
  let change := workspace.files.ensureParent workspace.directory path
  set { workspace with files := change.tree }
  match change.error with
  | none => return ()
  | some error => throw (.file error)

/-- Stores a picture at its path. -/
def saveFigure (figure : Figure) (path : Path) : Job Unit := do
  ensureParent path
  changeFiles fun files directory => files.write directory path .picture
  modify fun workspace => { workspace with figures := workspace.figures ++ [figure] }

def saveSnapshot (world : World) (path : Path) (title : Option String) (theme : Theme) :
    Job Path := do
  saveFigure (.snapshot (.ofWorld world path title theme)) path
  return path

/-- What an animation is made of. -/
structure AnimationOrder where
  trace : Path
  map : Path
  output : Path
  frameRate : Int := 4
  base : Option Path := none
  runId : Option WideString := none
  theme : Theme := .light

/-- Paths are resolved within the base if there is one. -/
def resolvePath (base : Option Path) (path : Path) : Job Path := do
  let workspace ← get
  match base with
  | none => return path.resolve workspace.directory
  | some base =>
    ofExcept ((path.resolveWithin workspace.directory (base.resolve workspace.directory)).mapError
      .refused)

/-- Replays a trace over the map it starts from. -/
def saveAnimation (order : AnimationOrder) : Job Path := do
  if order.frameRate < 1 then throw (.refused .frameRate)
  let tracePath ← resolvePath order.base order.trace
  let mapPath ← resolvePath order.base order.map
  let outputPath ← resolvePath order.base order.output
  let trace ← ofFiles fun files directory => files.loadTrace directory tracePath
  let rows := Animation.ofRun order.runId trace.rows
  if rows.isEmpty then throw (.refused (.noTraceRows tracePath.text))
  let world ← ofFiles fun files directory => files.loadMap directory mapPath
  let frames ← ofExcept (Animation.framesOf world (Animation.inOrder rows))
  saveFigure (.animation {
    frameRate := order.frameRate.toNat
    frames := frames
    width := world.width
    height := world.height
    theme := order.theme
    path := outputPath }) outputPath
  return outputPath

end Job

end GridRobot
