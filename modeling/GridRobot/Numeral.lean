/-
This file reads whole numbers.
-/

import GridRobot.Text.Blank
import GridRobot.Text.Digit
import GridRobot.Text.WideString

namespace GridRobot

/-- The most digits that a numeral may have, be it read or written. -/
def Numeral.maxDigits : Nat := 4300

inductive NumeralError where
  | malformed (text : WideString)
  | tooManyDigits (count : Nat)
  deriving DecidableEq, Repr

namespace Numeral

/-- The value of a row of digits; characters that are no digits are passed over. -/
def valueOf (text : List Char) : Nat :=
  (text.filterMap Text.digitValue?).foldl (fun value digit => 10 * value + digit) 0

/-- A row of digits may have single underscores between digits. -/
def wellSeparated : List Char → Bool
  | [] => false
  | ['_'] => false
  | '_' :: _ => false
  | [_] => true
  | _ :: '_' :: rest => wellSeparated rest
  | _ :: rest => wellSeparated rest

def countDigits (text : List Char) : Nat :=
  text.countP Text.isDigit

def splitSign : List Char → Bool × List Char
  | '-' :: rest => (true, rest)
  | '+' :: rest => (false, rest)
  | text => (false, text)

/-- The blanks that may stand around a numeral; the four information separators are not among
them. -/
def isPadding (char : Char) : Bool :=
  Text.isBlank char && !(0x1c ≤ char.toNat && char.toNat ≤ 0x1f)

/-- Reads an optional sign and digits between blanks. A surrogate is none of these, and neither is what it is shown
as. -/
def integer (text : WideString) : Except NumeralError Int :=
  let (negative, body) := splitSign (text.shown.toList.dropWhile isPadding)
  let digits := body.takeWhile fun char => Text.isDigit char || char = '_'
  let rest := body.dropWhile fun char => Text.isDigit char || char = '_'
  let count := countDigits digits
  if !wellSeparated digits then .error (.malformed text)
  else if count > maxDigits then .error (.tooManyDigits count)
  else if !rest.all isPadding then .error (.malformed text)
  else .ok (if negative then -(valueOf digits : Int) else valueOf digits)

/-- A number can be written if it has no more digits than a numeral may have. -/
def isWritable (value : Int) : Bool :=
  (Nat.toDigits 10 value.natAbs).length ≤ maxDigits

end Numeral

end GridRobot
