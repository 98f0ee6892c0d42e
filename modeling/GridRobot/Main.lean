/-
This file is the command line. It brings the files that a command may read into a workspace, runs
the command there, and carries out what the command did to the workspace.
-/

import GridRobot.CommandLine.Mentioned
import GridRobot.Figure.Sketch
import GridRobot.Trace.Stored

namespace GridRobot.CommandLine

/-- More steps than a run can take. -/
def manySteps : Nat := 1000000000000000000

def placeText (place : List String) : String :=
  "/" ++ "/".intercalate place

/-- The entry at a place on disk; what is there and cannot be read as a file is a directory. -/
def diskEntry? (place : List String) : IO (Option Entry) := do
  match ← (IO.FS.readBinFile (placeText place)).toBaseIO with
  | .ok data => return some (.file (Content.ofBytes data.toList))
  | .error (.inappropriateType ..) => return some .directory
  | .error _ => return none

/-- Brings an entry from disk into a tree that does not have it. -/
def loadEntry (tree : FileTree) (place : List String) : IO FileTree := do
  if (tree.entry? place).isSome then return tree
  match ← diskEntry? place with
  | some entry => return tree.insert place entry
  | none => return tree

/-- Brings a place and all places above it into a tree. -/
def loadPlace (tree : FileTree) (place : List String) : IO FileTree :=
  (List.range place.length).foldlM (fun loaded depth => loadEntry loaded (place.take (depth + 1)))
    tree

def loadPaths (directory : List String) (paths : List Path) (tree : FileTree) : IO FileTree :=
  paths.foldlM (fun loaded path => loadPlace loaded (path.resolveParts directory)) tree

/-- Stores an entry that a command made or changed. -/
def storeEntry (workspace : Workspace) (place : List String) : Entry → IO Unit
  | .directory => IO.FS.createDir (placeText place)
  | .file (.trace trace) => IO.FS.writeFile (placeText place) (trace.document.encode ++ "\n")
  | .file .picture =>
    let drawn := workspace.figures.reverse.find? fun figure =>
      figure.path.resolveParts workspace.directory = place
    IO.FS.writeFile (placeText place) ((drawn.map Figure.sketch).getD "")
  | .file .unfinishedTrace => IO.FS.writeFile (placeText place) ""
  | .file (.bytes data) => IO.FS.writeBinFile (placeText place) data.toByteArray

def storeChanges (before : FileTree) (workspace : Workspace) : IO Unit := do
  for (place, entry) in workspace.files.entries do
    if before.entry? place ≠ some entry then
      storeEntry workspace place entry

def play : Showing → IO Unit
  | .text text => do
    IO.print text
    (← IO.getStdout).flush
  | .pause milliseconds => IO.sleep milliseconds.toUInt32

/-- Shows what a command showed and stores what it stored. -/
def present (before : FileTree) (workspace : Workspace) : IO Unit := do
  workspace.shown.reverse.forM play
  storeChanges before workspace
  IO.eprint workspace.errors

def start (words : List String) : IO UInt32 := do
  let (tool, words) := Tool.ofWords words
  let directory := (Path.ofString (toString (← IO.currentDir))).parts
  let named ← loadPaths directory (tool.paths words) {}
  let given := (settingsDocument? words { files := named, directory }).map documentPaths
  let files ← loadPaths directory (given.getD []) named
  match tool.command manySteps words { files, directory } with
  | .ok status workspace =>
    present files workspace
    return status.toUInt32
  | .error failure workspace =>
    present files workspace
    IO.eprintln failure.message
    return 1

end GridRobot.CommandLine

def main (words : List String) : IO UInt32 :=
  GridRobot.CommandLine.start words
