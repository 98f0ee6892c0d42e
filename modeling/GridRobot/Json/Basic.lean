/-
This file holds the values of a settings document and their plain text.
-/

import GridRobot.Binary64
import GridRobot.Text.Quoted

namespace GridRobot

/-- A document value. An object keeps its keys in the order of their first appearance. -/
inductive Json where
  | null
  | bool (value : Bool)
  | int (value : Int)
  | real (value : Binary64)
  | string (value : WideString)
  | array (items : List Json)
  | object (fields : List (WideString × Json))
  deriving Repr

namespace Json

def find? (key : WideString) : List (WideString × Json) → Option Json
  | [] => none
  | (name, value) :: rest => if name = key then some value else find? key rest

/-- Sets a field; a repeated key keeps its place and takes the later value. -/
def insert (key : WideString) (value : Json) : List (WideString × Json) → List (WideString × Json)
  | [] => [(key, value)]
  | (name, old) :: rest =>
    if name = key then (name, value) :: rest else (name, old) :: insert key value rest

mutual

/-- The text of a value inside another one, where a string stands between quotes. -/
def inner : Json → String
  | .null => "None"
  | .bool value => if value then "True" else "False"
  | .int value => toString value
  | .real value => value.text
  | .string value => Text.quoted value
  | .array items => "[" ++ ", ".intercalate (innerItems items) ++ "]"
  | .object fields => "\x7b" ++ ", ".intercalate (innerFields fields) ++ "\x7d"

def innerItems : List Json → List String
  | [] => []
  | item :: rest => inner item :: innerItems rest

def innerFields : List (WideString × Json) → List String
  | [] => []
  | (key, value) :: rest => (Text.quoted key ++ ": " ++ inner value) :: innerFields rest

end

/-- The text of a value on its own, where a string is itself. -/
def text : Json → WideString
  | .string value => value
  | value => inner value

end Json

end GridRobot
