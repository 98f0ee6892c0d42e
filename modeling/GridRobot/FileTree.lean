/-
This file holds a tree of files and directories.
-/

import GridRobot.Path
import GridRobot.Text.Lines
import GridRobot.Trace.Basic

namespace GridRobot

/-- What a file holds. A trace that is still being written cannot be read. -/
inductive Content where
  | bytes (data : List UInt8)
  | trace (trace : Trace)
  | unfinishedTrace
  | picture
  deriving DecidableEq, Repr

inductive Entry where
  | directory
  | file (content : Content)
  deriving DecidableEq, Repr

/-- Entries by their place, which is the list of names from the root; the root is a directory. -/
structure FileTree where
  entries : List (List String × Entry) := []
  deriving DecidableEq, Repr

/-- The tree that a change leaves behind, and the error that ended it early. -/
structure FileChange where
  tree : FileTree
  error : Option FileError := none
  deriving DecidableEq, Repr

namespace FileTree

def entry? (tree : FileTree) (place : List String) : Option Entry :=
  if place = [] then some .directory else tree.entries.lookup place

def replace (place : List String) (entry : Entry) :
    List (List String × Entry) → List (List String × Entry)
  | [] => [(place, entry)]
  | (other, old) :: rest =>
    if other = place then (place, entry) :: rest else (other, old) :: replace place entry rest

def insert (tree : FileTree) (place : List String) (entry : Entry) : FileTree :=
  ⟨replace place entry tree.entries⟩

/-- Walks from a place along the parts of a path. Every place that is left must be a directory;
the last one need not exist. -/
def walk (tree : FileTree) : List String → List String → Except FileError (List String)
  | place, [] => .ok place
  | place, part :: rest =>
    match tree.entry? place with
    | none => .error .notFound
    | some (.file _) => .error .notDirectory
    | some .directory => walk tree (if part = ".." then place.dropLast else place ++ [part]) rest

def locate (tree : FileTree) (directory : List String) (path : Path) :
    Except FileError (List String) :=
  tree.walk (if path.isAbsolute then [] else directory) path.parts

def read (tree : FileTree) (directory : List String) (path : Path) : Except FileError Content :=
  match tree.locate directory path with
  | .error error => .error error
  | .ok place =>
    match tree.entry? place with
    | none => .error .notFound
    | some .directory => .error .isDirectory
    | some (.file content) => .ok content

def write (tree : FileTree) (directory : List String) (path : Path) (content : Content) :
    Except FileError FileTree :=
  match tree.locate directory path with
  | .error error => .error error
  | .ok place =>
    match tree.entry? place, tree.entry? place.dropLast with
    | some .directory, _ => .error .isDirectory
    | some (.file _), _ => .ok (tree.insert place (.file content))
    | none, some .directory => .ok (tree.insert place (.file content))
    | none, some (.file _) => .error .notDirectory
    | none, none => .error .notFound

/-- Makes one directory; its parent must exist and its place must be free. -/
def makeDirectory (tree : FileTree) (directory : List String) (path : Path) :
    Except FileError FileTree :=
  match tree.locate directory path with
  | .error error => .error error
  | .ok place =>
    match tree.entry? place with
    | some _ => .error .alreadyExists
    | none => .ok (tree.insert place .directory)

def isDirectory (tree : FileTree) (directory : List String) (path : Path) : Bool :=
  match tree.locate directory path with
  | .error _ => false
  | .ok place => tree.entry? place = some .directory

/-- A place that could not be made is no error if it is a directory. -/
def unlessDirectory (tree : FileTree) (directory : List String) (path : Path)
    (error : FileError) : FileChange :=
  if tree.isDirectory directory path then { tree } else { tree, error := some error }

/-- Makes a directory unless it is there, and before it the directories above it that are missing.
The fuel is the number of parts of the path. -/
def ensureDirectory (directory : List String) : Nat → FileTree → Path → FileChange
  | fuel, tree, path =>
    match tree.makeDirectory directory path with
    | .ok made => { tree := made }
    | .error .notFound =>
      match fuel with
      | 0 => { tree, error := some .notFound }
      | less + 1 =>
        let above := ensureDirectory directory less tree path.parent
        match above.error with
        | some _ => above
        | none =>
          match above.tree.makeDirectory directory path with
          | .ok made => { tree := made }
          | .error error => above.tree.unlessDirectory directory path error
    | .error error => tree.unlessDirectory directory path error

def ensureParent (tree : FileTree) (directory : List String) (path : Path) : FileChange :=
  ensureDirectory directory path.parent.parts.length tree path.parent

/-- The bytes that a reader of text gets; a trace or a picture is none that it could decode. -/
def bytesOf : Content → List UInt8
  | .bytes data => data
  | _ => [0xff]

/-- The text of a file, with all line endings written as line feeds. -/
def readText (tree : FileTree) (directory : List String) (path : Path) :
    Except Failure (List Char) :=
  match tree.read directory path with
  | .error error => .error (.file error)
  | .ok content =>
    match Text.decodeUtf8 ((bytesOf content).map UInt8.toNat) with
    | .error error => .error (.undecodable error)
    | .ok text => .ok (Text.unifyNewlines text)

def readLines (tree : FileTree) (directory : List String) (path : Path) :
    Except Failure (List String) :=
  match tree.readText directory path with
  | .error failure => .error failure
  | .ok text => .ok ((Text.sourceLines text).map String.ofList)

/-- The world of a map file. -/
def loadMap (tree : FileTree) (directory : List String) (path : Path) : Except Failure World :=
  match tree.readLines directory path with
  | .error (.file .notFound) => .error (.fault (MapError.fault ⟨.noFile path.text, none⟩))
  | .error failure => .error failure
  | .ok rows => (Map.parse rows).mapError fun error => .fault error.fault

/-- The trace of a trace file. -/
def loadTrace (tree : FileTree) (directory : List String) (path : Path) : Except Failure Trace :=
  match tree.read directory path with
  | .error .isDirectory => .error .notATrace
  | .error error => .error (.file error)
  | .ok (.trace trace) => .ok trace
  | .ok _ => .error .notATrace

end FileTree

end GridRobot
