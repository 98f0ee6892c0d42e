/-
This file reads settings documents and says where a malformed one goes wrong.
-/

import GridRobot.Json.Basic
import GridRobot.Numeral

namespace GridRobot

inductive JsonProblem where
  | expectingValue
  | expectingProperty
  | expectingColon
  | expectingComma
  | unterminatedString
  | controlCharacter
  | badEscape
  | badUnicodeEscape
  | extraData
  | byteOrderMark
  | nestedTooDeep
  deriving DecidableEq, Repr

/-- A problem with its position, and the line and column that the position has. -/
structure JsonFault where
  problem : JsonProblem
  line : Nat
  column : Nat
  position : Nat
  deriving DecidableEq, Repr

inductive JsonError where
  | malformed (fault : JsonFault)
  | tooManyDigits (count : Nat)
  deriving DecidableEq, Repr

def JsonProblem.message : JsonProblem → String
  | .expectingValue => "Expecting value"
  | .expectingProperty => "Expecting property name enclosed in double quotes"
  | .expectingColon => "Expecting ':' delimiter"
  | .expectingComma => "Expecting ',' delimiter"
  | .unterminatedString => "Unterminated string starting at"
  | .controlCharacter => "Invalid control character at"
  | .badEscape => "Invalid \\escape"
  | .badUnicodeEscape => "Invalid \\uXXXX escape"
  | .extraData => "Extra data"
  | .byteOrderMark => "Unexpected UTF-8 BOM (decode using utf-8-sig)"
  | .nestedTooDeep => "maximum recursion depth exceeded"

namespace Json

/-- A place in the document: the characters before it are counted and the rest is left to read. -/
structure Cursor where
  position : Nat
  rest : List Char
  deriving Repr

/-- Why reading stopped, with the position at fault. -/
inductive ReadError where
  | misread (problem : JsonProblem) (position : Nat)
  | tooManyDigits (count : Nat)
  deriving Repr

def Cursor.advance (cursor : Cursor) (count : Nat) : Cursor :=
  ⟨cursor.position + count, cursor.rest.drop count⟩

def isSpace (char : Char) : Bool :=
  char = ' ' || char = '\t' || char = '\n' || char = '\r'

def Cursor.skipSpace (cursor : Cursor) : Cursor :=
  cursor.advance (cursor.rest.takeWhile isSpace).length

def hexValue? (char : Char) : Option Nat :=
  if '0' ≤ char && char ≤ '9' then some (char.toNat - 48)
  else if 'a' ≤ char && char ≤ 'f' then some (char.toNat - 87)
  else if 'A' ≤ char && char ≤ 'F' then some (char.toNat - 55)
  else none

/-- The value of four hexadecimal digits at the front. -/
def hexQuad? : List Char → Option Nat
  | a :: b :: c :: d :: _ => do
    let a ← hexValue? a
    let b ← hexValue? b
    let c ← hexValue? c
    let d ← hexValue? d
    some (((a * 16 + b) * 16 + c) * 16 + d)
  | _ => none

def simpleEscape? (char : Char) : Option Char :=
  match char with
  | '"' => some '"'
  | '\\' => some '\\'
  | '/' => some '/'
  | 'b' => some '\x08'
  | 'f' => some '\x0c'
  | 'n' => some '\n'
  | 'r' => some '\r'
  | 't' => some '\t'
  | _ => none

def isHighSurrogate (unit : Nat) : Bool :=
  0xd800 ≤ unit && unit < 0xdc00

def isLowSurrogate (unit : Nat) : Bool :=
  0xdc00 ≤ unit && unit < 0xe000

/-- Reads a `\uXXXX` escape whose four digits start at the cursor, together with a second escape
that completes a surrogate pair. A surrogate that pairs with nothing is kept. At least one character must follow the
digits. -/
def readUnicodeEscape (cursor : Cursor) : Except ReadError (WideChar × Cursor) :=
  if (cursor.rest.drop 4).isEmpty then .error (.misread .badUnicodeEscape (cursor.position - 1))
  else
    match hexQuad? cursor.rest with
    | none => .error (.misread .badUnicodeEscape (cursor.position - 1))
    | some unit =>
      let after := cursor.advance 4
      match isHighSurrogate unit && !(after.rest.drop 6).isEmpty, after.rest with
      | true, '\\' :: 'u' :: digits =>
        match hexQuad? digits with
        | none => .error (.misread .badUnicodeEscape (after.position + 1))
        | some second =>
          if isLowSurrogate second then
            .ok (.char (Char.ofNat (0x10000 + (unit - 0xd800) * 0x400 + (second - 0xdc00))),
              after.advance 6)
          else .ok (.ofUnit unit, after)
      | _, _ => .ok (.ofUnit unit, after)

/-- Reads the rest of a string whose opening quote stands at `start`. -/
def readString (start : Nat) : Nat → List WideChar → Cursor → Except ReadError (WideString × Cursor)
  | 0, _, _ => .error (.misread .unterminatedString start)
  | fuel + 1, read, cursor =>
    match cursor.rest with
    | [] => .error (.misread .unterminatedString start)
    | '"' :: _ => .ok (⟨read.reverse⟩, cursor.advance 1)
    | ['\\'] => .error (.misread .unterminatedString start)
    | '\\' :: 'u' :: _ => do
      let (char, next) ← readUnicodeEscape (cursor.advance 2)
      readString start fuel (char :: read) next
    | '\\' :: mark :: _ =>
      match simpleEscape? mark with
      | none => .error (.misread .badEscape cursor.position)
      | some char => readString start fuel (.char char :: read) (cursor.advance 2)
    | char :: _ =>
      if char.toNat < 0x20 then .error (.misread .controlCharacter cursor.position)
      else readString start fuel (.char char :: read) (cursor.advance 1)

def isAsciiDigit (char : Char) : Bool :=
  '0' ≤ char && char ≤ '9'

/-- The digits before the point: one zero, or digits that do not start with zero. -/
def wholeDigits : List Char → List Char
  | '0' :: _ => ['0']
  | text => text.takeWhile isAsciiDigit

/-- The digits of a fraction, which must have at least one. -/
def fractionDigits : List Char → List Char
  | '.' :: rest => rest.takeWhile isAsciiDigit
  | _ => []

/-- An exponent's sign, digits and length in characters. -/
def exponentPart (text : List Char) : Option (Bool × List Char × Nat) :=
  let digitsOf (negative : Bool) (lead : Nat) (rest : List Char) :=
    let digits := rest.takeWhile isAsciiDigit
    if digits.isEmpty then none else some (negative, digits, lead + digits.length)
  match text with
  | mark :: rest =>
    if mark = 'e' || mark = 'E' then
      match rest with
      | '-' :: digits => digitsOf true 2 digits
      | '+' :: digits => digitsOf false 2 digits
      | digits => digitsOf false 1 digits
    else none
  | [] => none

/-- Reads a number: a whole number without a fraction and an exponent, a real one with either. -/
def readNumber (cursor : Cursor) : Except ReadError (Json × Cursor) :=
  let negative := cursor.rest.head? = some '-'
  let body := if negative then cursor.rest.drop 1 else cursor.rest
  let signLength := if negative then 1 else 0
  let whole := wholeDigits body
  if whole.isEmpty then .error (.misread .expectingValue cursor.position)
  else
    let afterWhole := body.drop whole.length
    let fraction := fractionDigits afterWhole
    let fractionLength := if fraction.isEmpty then 0 else fraction.length + 1
    let afterFraction := afterWhole.drop fractionLength
    let mantissaLength := signLength + whole.length + fractionLength
    match exponentPart afterFraction with
    | some (down, digits, length) =>
      let power : Int := Numeral.valueOf digits
      let exponent := (if down then -power else power) - fraction.length
      .ok (.real (Binary64.ofDecimal negative (Numeral.valueOf (whole ++ fraction)) exponent),
        cursor.advance (mantissaLength + length))
    | none =>
      if fraction.isEmpty then
        if whole.length > Numeral.maxDigits then .error (.tooManyDigits whole.length)
        else
          let value : Int := Numeral.valueOf whole
          .ok (.int (if negative then -value else value), cursor.advance mantissaLength)
      else
        .ok (.real (Binary64.ofDecimal negative (Numeral.valueOf (whole ++ fraction))
            (-(fraction.length : Int))), cursor.advance mantissaLength)

/-- The values that are written as a word. -/
def words : List (String × Json) :=
  [("null", .null), ("true", .bool true), ("false", .bool false), ("NaN", .real .notANumber),
    ("Infinity", .real (.infinite false)), ("-Infinity", .real (.infinite true))]

def readWord? (cursor : Cursor) : Option (Json × Cursor) :=
  (words.find? fun word => word.1.toList.isPrefixOf cursor.rest).map fun word =>
    (word.2, cursor.advance word.1.length)

/-- How many arrays and objects may be open at once: the reader has a stack of 1000 frames, of which 10 are in use
when it meets the first value, and takes one more for each. -/
def maxNesting : Nat := 990

mutual

/-- Reads the value at the cursor, inside of which `nesting` arrays and objects may be open. Every step
down or along takes a character, so as much fuel as there are characters is enough. -/
def readValue : Nat → Nat → Cursor → Except ReadError (Json × Cursor)
  | 0, _, cursor => .error (.misread .expectingValue cursor.position)
  | fuel + 1, nesting, cursor =>
    match cursor.rest, nesting with
    | '"' :: _, _ => do
      let (value, next) ← readString cursor.position (fuel + 1) [] (cursor.advance 1)
      .ok (.string value, next)
    | '[' :: _, 0 | '\x7b' :: _, 0 => .error (.misread .nestedTooDeep cursor.position)
    | '[' :: _, nesting + 1 =>
      let inside := (cursor.advance 1).skipSpace
      match inside.rest with
      | ']' :: _ => .ok (.array [], inside.advance 1)
      | _ => do
        let (items, next) ← readItems fuel nesting inside
        .ok (.array items, next)
    | '\x7b' :: _, nesting + 1 =>
      let inside := (cursor.advance 1).skipSpace
      match inside.rest with
      | '\x7d' :: _ => .ok (.object [], inside.advance 1)
      | _ => do
        let (fields, next) ← readFields fuel nesting [] inside
        .ok (.object fields, next)
    | _, _ =>
      match readWord? cursor with
      | some result => .ok result
      | none => readNumber cursor

def readItems : Nat → Nat → Cursor → Except ReadError (List Json × Cursor)
  | 0, _, cursor => .error (.misread .expectingValue cursor.position)
  | fuel + 1, nesting, cursor => do
    let (item, next) ← readValue fuel nesting cursor
    let next := next.skipSpace
    match next.rest with
    | ']' :: _ => .ok ([item], next.advance 1)
    | ',' :: _ => do
      let (items, last) ← readItems fuel nesting (next.advance 1).skipSpace
      .ok (item :: items, last)
    | _ => .error (.misread .expectingComma next.position)

def readFields : Nat → Nat → List (WideString × Json) → Cursor →
    Except ReadError (List (WideString × Json) × Cursor)
  | 0, _, _, cursor => .error (.misread .expectingProperty cursor.position)
  | fuel + 1, nesting, fields, cursor =>
    match cursor.rest with
    | '"' :: _ => do
      let (key, next) ← readString cursor.position (fuel + 1) [] (cursor.advance 1)
      let next := next.skipSpace
      match next.rest with
      | ':' :: _ => do
        let (value, next) ← readValue fuel nesting (next.advance 1).skipSpace
        let next := next.skipSpace
        let fields := insert key value fields
        match next.rest with
        | '\x7d' :: _ => .ok (fields, next.advance 1)
        | ',' :: _ => readFields fuel nesting fields (next.advance 1).skipSpace
        | _ => .error (.misread .expectingComma next.position)
      | _ => .error (.misread .expectingColon next.position)
    | _ => .error (.misread .expectingProperty cursor.position)

end

def readDocument (text : List Char) : Except ReadError Json :=
  if text.head? = some '\ufeff' then .error (.misread .byteOrderMark 0)
  else do
    let (value, next) ← readValue (2 * text.length + 1) maxNesting (Cursor.mk 0 text).skipSpace
    let next := next.skipSpace
    if next.rest.isEmpty then .ok value else .error (.misread .extraData next.position)

/-- Gives a position its line and its column, both counted from one. -/
def locate (text : List Char) : ReadError → JsonError
  | .tooManyDigits count => .tooManyDigits count
  | .misread problem position =>
    let before := text.take position
    let column := (before.reverse.takeWhile (· ≠ '\n')).length + 1
    .malformed ⟨problem, before.count '\n' + 1, column, position⟩

def parse (text : String) : Except JsonError Json :=
  (readDocument text.toList).mapError (locate text.toList)

end Json

def JsonFault.message (fault : JsonFault) : String :=
  s!"{fault.problem.message}: line {fault.line} column {fault.column} (char {fault.position})"

end GridRobot
