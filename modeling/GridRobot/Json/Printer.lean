/-
This file writes document values.
-/

import GridRobot.Json.Basic

namespace GridRobot.Json

/-- Of the characters, quotes, backslashes and controls are escaped, and nothing else. -/
def encodeChar (char : Char) : List Char :=
  match char with
  | '"' => ['\\', '"']
  | '\\' => ['\\', '\\']
  | '\n' => ['\\', 'n']
  | '\r' => ['\\', 'r']
  | '\t' => ['\\', 't']
  | '\x08' => ['\\', 'b']
  | '\x0c' => ['\\', 'f']
  | char =>
    if char.toNat < 0x20 then '\\' :: 'u' :: Text.hexDigits 4 char.toNat else [char]

def encodeWide : WideChar → List Char
  | .char char => encodeChar char
  | .surrogate offset => '\\' :: 'u' :: Text.hexDigits 4 (WideChar.unitOf offset)

def encodeString (text : WideString) : String :=
  String.ofList ('"' :: text.letters.flatMap encodeWide ++ ['"'])

mutual

/-- The document of a value on one line. -/
def encode : Json → String
  | .null => "null"
  | .bool value => if value then "true" else "false"
  | .int value => toString value
  | .real value => value.text
  | .string value => encodeString value
  | .array items => "[" ++ ", ".intercalate (encodeItems items) ++ "]"
  | .object fields => "\x7b" ++ ", ".intercalate (encodeFields fields) ++ "\x7d"

def encodeItems : List Json → List String
  | [] => []
  | item :: rest => encode item :: encodeItems rest

def encodeFields : List (WideString × Json) → List String
  | [] => []
  | (key, value) :: rest => (encodeString key ++ ": " ++ encode value) :: encodeFields rest

end

/-- An object with one field on each line. -/
def encodeReport (fields : List (String × Json)) : String :=
  let lines := fields.map fun field => "  " ++ encodeString field.1 ++ ": " ++ encode field.2
  "\x7b\n" ++ ",\n".intercalate lines ++ "\n\x7d"

end GridRobot.Json
