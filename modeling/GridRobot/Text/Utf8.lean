/-
This file decodes UTF-8 and says which bytes cannot be decoded.
-/

import GridRobot.Text.Quoted

namespace GridRobot.Text

inductive Utf8Problem where
  | invalidStart
  | invalidContinuation
  | unexpectedEnd
  deriving DecidableEq, Repr

/-- The bytes from `position` on that cannot be decoded. -/
structure Utf8Error where
  problem : Utf8Problem
  position : Nat
  bytes : List Nat
  deriving DecidableEq, Repr

/-- What the first byte of a character says: how many bytes follow and the range of the second. -/
structure Utf8Lead where
  bits : Nat
  following : Nat
  low : Nat
  high : Nat
  deriving Repr

def utf8Lead? (byte : Nat) : Option Utf8Lead :=
  if byte < 0x80 then some ⟨byte, 0, 0, 0⟩
  else if byte < 0xc2 then none
  else if byte < 0xe0 then some ⟨byte % 0x20, 1, 0x80, 0xbf⟩
  else if byte < 0xf0 then
    some ⟨byte % 0x10, 2, if byte = 0xe0 then 0xa0 else 0x80, if byte = 0xed then 0x9f else 0xbf⟩
  else if byte < 0xf5 then
    some ⟨byte % 0x08, 3, if byte = 0xf0 then 0x90 else 0x80, if byte = 0xf4 then 0x8f else 0xbf⟩
  else none

/-- Reads `count` more bytes of a character whose earlier bytes are `seen`, last first. -/
def utf8Tail (position : Nat) : Nat → Nat → Nat → Nat → List Nat → List Nat →
    Except Utf8Error (Char × List Nat)
  | 0, bits, _, _, _, rest => .ok (Char.ofNat bits, rest)
  | _ + 1, _, _, _, seen, [] => .error ⟨.unexpectedEnd, position, seen.reverse⟩
  | count + 1, bits, low, high, seen, byte :: rest =>
    if low ≤ byte && byte ≤ high then
      utf8Tail position count (bits * 64 + byte % 64) 0x80 0xbf (byte :: seen) rest
    else .error ⟨.invalidContinuation, position, seen.reverse⟩

/-- Reads the character at the front. -/
def utf8Char (position : Nat) : List Nat → Except Utf8Error (Char × List Nat)
  | [] => .error ⟨.unexpectedEnd, position, []⟩
  | byte :: rest =>
    match utf8Lead? byte with
    | none => .error ⟨.invalidStart, position, [byte]⟩
    | some lead => utf8Tail position lead.following lead.bits lead.low lead.high [byte] rest

/-- Decodes with one unit of fuel for each byte; every character has at least one. -/
def decodeUtf8From : Nat → Nat → List Char → List Nat → Except Utf8Error (List Char)
  | _, _, decoded, [] => .ok decoded.reverse
  | 0, _, decoded, _ :: _ => .ok decoded.reverse
  | fuel + 1, position, decoded, bytes@(_ :: _) =>
    match utf8Char position bytes with
    | .error problem => .error problem
    | .ok (char, rest) =>
      decodeUtf8From fuel (position + char.utf8Size) (char :: decoded) rest

def decodeUtf8 (bytes : List Nat) : Except Utf8Error (List Char) :=
  decodeUtf8From bytes.length 0 [] bytes

def Utf8Problem.message : Utf8Problem → String
  | .invalidStart => "invalid start byte"
  | .invalidContinuation => "invalid continuation byte"
  | .unexpectedEnd => "unexpected end of data"

def Utf8Error.message (error : Utf8Error) : String :=
  match error.bytes with
  | [byte] =>
    s!"'utf-8' codec can't decode byte 0x{String.ofList (hexDigits 2 byte)} in position " ++
      s!"{error.position}: {error.problem.message}"
  | bytes =>
    s!"'utf-8' codec can't decode bytes in position {error.position}-" ++
      s!"{error.position + bytes.length - 1}: {error.problem.message}"

end GridRobot.Text
