/-
This file holds file paths: how they are written, joined, resolved and confined to a directory.
-/

import GridRobot.Failure

namespace GridRobot

/-- Where a path starts. Two slashes at the front are kept apart from one. -/
inductive PathRoot where
  | none
  | slash
  | doubleSlash
  deriving DecidableEq, Repr

def PathRoot.text : PathRoot → String
  | .none => ""
  | .slash => "/"
  | .doubleSlash => "//"

/-- A path in its plain form: no part of it is empty or a single dot. -/
structure Path where
  root : PathRoot
  parts : List String
  deriving DecidableEq, Repr

namespace Path

def isPlainPart (part : String) : Bool :=
  part ≠ "" && part ≠ "."

/-- Cuts a text at slashes; the current part is kept in reverse. -/
def cutFrom : List Char → List Char → List String
  | current, [] => [String.ofList current.reverse]
  | current, char :: rest =>
    if char = '/' then String.ofList current.reverse :: cutFrom [] rest
    else cutFrom (char :: current) rest

def rootOf (text : List Char) : PathRoot :=
  match (text.takeWhile (· = '/')).length with
  | 0 => .none
  | 2 => .doubleSlash
  | _ => .slash

def ofString (text : String) : Path :=
  ⟨rootOf text.toList, (cutFrom [] text.toList).filter isPlainPart⟩

def text (path : Path) : String :=
  if path.root = .none && path.parts.isEmpty then "."
  else path.root.text ++ "/".intercalate path.parts

def isAbsolute (path : Path) : Bool :=
  path.root ≠ .none

/-- An absolute path stands on its own; any other continues the base. -/
def join (base path : Path) : Path :=
  if path.isAbsolute then path else ⟨base.root, base.parts ++ path.parts⟩

def parent (path : Path) : Path :=
  { path with parts := path.parts.dropLast }

/-- The directories above a path, the nearest first. -/
def parents (path : Path) : List Path :=
  (List.range path.parts.length).reverse.map fun count =>
    { path with parts := path.parts.take count }

def name (path : Path) : String :=
  path.parts.getLast?.getD ""

/-- The end of the name from its last dot on. A dot at either end of the name starts no suffix. -/
def suffix (path : Path) : String :=
  let reversed := path.name.toList.reverse
  let ending := reversed.takeWhile (· ≠ '.')
  let before := reversed.drop (ending.length + 1)
  if ending.isEmpty || before.isEmpty || !reversed.contains '.' then ""
  else String.ofList ('.' :: ending.reverse)

/-- Follows parts down from a directory; two dots lead up, and at the root they stay. -/
def follow : List String → List String → List String
  | place, [] => place
  | place, part :: rest => follow (if part = ".." then place.dropLast else place ++ [part]) rest

/-- The parts from the root of a path taken from a directory. -/
def resolveParts (directory : List String) (path : Path) : List String :=
  follow (if path.isAbsolute then [] else directory) path.parts

def resolve (directory : List String) (path : Path) : Path :=
  ⟨.slash, resolveParts directory path⟩

/-- Resolves a path taken from a base and refuses it if it lies outside of the base. -/
def resolveWithin (directory : List String) (path base : Path) : Except Refusal Path :=
  let resolved := resolve directory (base.join path)
  let resolvedBase := resolve directory base
  if resolved = resolvedBase || resolved.parents.contains resolvedBase then .ok resolved
  else .error (.outsideBase path.text)

end Path

end GridRobot
