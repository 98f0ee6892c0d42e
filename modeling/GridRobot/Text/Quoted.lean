/-
This file writes a text between quotes so that every character of it can be seen.
-/

import GridRobot.Text.Printable
import GridRobot.Text.WideString

namespace GridRobot.Text

def hexDigit (value : Nat) : Char :=
  if value < 10 then Char.ofNat (48 + value) else Char.ofNat (87 + value)

/-- The lowest `width` hexadecimal digits of a number, most significant first. -/
def hexDigits : Nat → Nat → List Char
  | 0, _ => []
  | width + 1, value => hexDigits width (value / 16) ++ [hexDigit (value % 16)]

/-- A text with a single quote and no double quote stands between double quotes. -/
def quoteFor (text : WideString) : Char :=
  if text.letters.contains (.char '\x27') && !text.letters.contains (.char '"') then '"' else '\x27'

def escapeChar (quote char : Char) : List Char :=
  if char = quote || char = '\\' then ['\\', char]
  else if char = '\n' then ['\\', 'n']
  else if char = '\r' then ['\\', 'r']
  else if char = '\t' then ['\\', 't']
  else if isPrintable char then [char]
  else if char.toNat < 0x100 then '\\' :: 'x' :: hexDigits 2 char.toNat
  else if char.toNat < 0x10000 then '\\' :: 'u' :: hexDigits 4 char.toNat
  else '\\' :: 'U' :: hexDigits 8 char.toNat

/-- A surrogate is escaped like any character that is not printable. -/
def escapeWide (quote : Char) : WideChar → List Char
  | .char char => escapeChar quote char
  | .surrogate offset => '\\' :: 'u' :: hexDigits 4 (WideChar.unitOf offset)

def quotedChars (text : WideString) : List Char :=
  let quote := quoteFor text
  quote :: text.letters.flatMap (escapeWide quote) ++ [quote]

def quoted (text : WideString) : String :=
  String.ofList (quotedChars text)

end GridRobot.Text
