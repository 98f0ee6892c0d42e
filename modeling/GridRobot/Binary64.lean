/-
This file holds the numbers of the 64-bit binary format as exact values, the decimal reading that
rounds to the nearest of them, and the shortest decimal text that reads back.
-/

namespace GridRobot

/-- A finite number is its mantissa times a power of two. -/
inductive Binary64 where
  | finite (negative : Bool) (mantissa : Nat) (exponent : Int)
  | infinite (negative : Bool)
  | notANumber
  deriving DecidableEq, Repr

namespace Binary64

def minExponent : Int := -1074

def maxExponent : Int := 971

/-- The first number above the mantissas of 53 bits. -/
def mantissaLimit : Nat := 9007199254740992

/-- The quotient rounded to the nearest whole number, with a tie going to the even one. -/
def roundedQuotient (numerator denominator : Nat) : Nat :=
  let quotient := numerator / denominator
  let twice := 2 * (numerator % denominator)
  if twice < denominator then quotient
  else if denominator < twice then quotient + 1
  else if quotient % 2 = 0 then quotient else quotient + 1

/-- A fraction as numerator and denominator, multiplied by a power of the base. -/
def scale (base : Nat) (exponent : Int) (fraction : Nat × Nat) : Nat × Nat :=
  match exponent with
  | .ofNat power => (fraction.1 * base.pow power, fraction.2)
  | .negSucc power => (fraction.1, fraction.2 * base.pow (power + 1))

/-- The exponent at which a fraction has a mantissa of 53 bits, or the least exponent. -/
def exponentFor (fraction : Nat × Nat) : Int :=
  let guess : Int := (fraction.1.log2 : Int) - fraction.2.log2 - 53
  let (numerator, denominator) := scale 2 (-guess) fraction
  max minExponent (if denominator * mantissaLimit ≤ numerator then guess + 1 else guess)

/-- The number nearest to a positive fraction. -/
def ofFraction (negative : Bool) (fraction : Nat × Nat) : Binary64 :=
  let exponent := exponentFor fraction
  let (numerator, denominator) := scale 2 (-exponent) fraction
  let mantissa := roundedQuotient numerator denominator
  let (mantissa, exponent) :=
    if mantissa = mantissaLimit then (mantissa / 2, exponent + 1) else (mantissa, exponent)
  if maxExponent < exponent then .infinite negative else .finite negative mantissa exponent

def decimalLength (value : Nat) : Nat :=
  (Nat.toDigits 10 value).length

/-- The number nearest to `digits` times a power of ten. A value of more than 310 places is
above every finite number, and one that starts after the 326th place is below half of the least
positive one. -/
def ofDecimal (negative : Bool) (digits : Nat) (exponent : Int) : Binary64 :=
  let places := (decimalLength digits : Int) + exponent
  if digits = 0 || places < -326 then .finite negative 0 minExponent
  else if 310 < places then .infinite negative
  else ofFraction negative (scale 10 exponent (digits, 1))

/-- The whole number that is left when the fraction is cut off. -/
def truncate (negative : Bool) (mantissa : Nat) (exponent : Int) : Int :=
  let (numerator, denominator) := scale 2 exponent (mantissa, 1)
  if negative then -((numerator / denominator : Nat) : Int) else (numerator / denominator : Nat)

def isWhole (mantissa : Nat) (exponent : Int) : Bool :=
  let (numerator, denominator) := scale 2 exponent (mantissa, 1)
  numerator % denominator = 0

/-- The reals that round to a positive number, as multiples of a quarter unit of its last place:
the lower end, the number itself and the upper end. The gap below a power of two is half as wide. -/
structure Interval where
  low : Nat
  middle : Nat
  high : Nat
  exponent : Int
  closed : Bool
  deriving Repr

def interval (mantissa : Nat) (exponent : Int) : Interval :=
  let narrow := mantissa = mantissaLimit / 2 && minExponent < exponent
  { low := 4 * mantissa - (if narrow then 1 else 2)
    middle := 4 * mantissa
    high := 4 * mantissa + 2
    exponent := exponent - 2
    closed := mantissa % 2 = 0 }

/-- The units in which grid points of step `10 ^ place` and interval points are compared: a grid
point `c` is compared as `c * grid` and an interval point `x` as `x * point`. -/
def units (place exponent : Int) : Nat × Nat :=
  let (grid, point) := scale 10 place (1, 1)
  let (scaledPoint, scaledGrid) := scale 2 exponent (point, grid)
  (scaledGrid, scaledPoint)

def Interval.contains (range : Interval) (place : Int) (count : Nat) : Bool :=
  let (grid, point) := units place range.exponent
  let value := count * grid
  if range.closed then range.low * point ≤ value && value ≤ range.high * point
  else range.low * point < value && value < range.high * point

/-- The grid point of step `10 ^ place` that stands for the interval: the nearest of the middle's
two neighbours that lie in it, and the even one of two equally near. -/
def Interval.onGrid? (range : Interval) (place : Int) : Option Nat :=
  let (grid, point) := units place range.exponent
  let below := range.middle * point / grid
  let above := below + 1
  let distanceBelow := range.middle * point - below * grid
  let distanceAbove := above * grid - range.middle * point
  match range.contains place below, range.contains place above with
  | false, false => none
  | true, false => some below
  | false, true => some above
  | true, true =>
    if distanceBelow < distanceAbove then some below
    else if distanceAbove < distanceBelow then some above
    else if below % 2 = 0 then some below else some above

/-- The greatest power of ten that is not above a positive number. -/
def decimalExponent (mantissa : Nat) (exponent : Int) : Int :=
  let guess := Int.fdiv (((mantissa.log2 : Int) + exponent) * 30103) 100000
  let reaches (place : Int) : Bool :=
    let (grid, point) := units place exponent
    grid ≤ mantissa * point
  (([guess + 1, guess].find? reaches).getD (guess - 1))

/-- Tries grids of one, two, … digits in turn; seventeen digits always suffice. -/
def searchGrids (range : Interval) (leading : Int) : Nat → Nat → Nat × Int
  | 0, tried => (range.middle, leading - tried)
  | left + 1, tried =>
    let place := leading - tried
    match range.onGrid? place with
    | some count => (count, place)
    | none => searchGrids range leading left (tried + 1)

/-- The digits of the shortest decimal that reads back as a positive number, and the power of ten
of its last digit. -/
def shortest (mantissa : Nat) (exponent : Int) : Nat × Int :=
  searchGrids (interval mantissa exponent) (decimalExponent mantissa exponent) 17 0

/-- The positions of the decimal point, counted from the first digit, that are written in place;
outside of them a text has an exponent. -/
structure PointRange where
  above : Int
  upTo : Int
  deriving Repr

/-- A point up to three places before the digits or sixteen places into them is written in place. -/
def placedPoints : PointRange := ⟨-4, 16⟩

def exponentText (exponent : Int) : String :=
  let digits := toString exponent.natAbs
  (if exponent < 0 then "e-" else "e+") ++ (if digits.length < 2 then "0" ++ digits else digits)

def dropTrailingZeros (digits : List Char) : List Char :=
  (digits.reverse.dropWhile (· = '0')).reverse

/-- Writes digits whose decimal point stands after the first `point` of them. -/
def placed (digits : List Char) (point : Int) : String :=
  if point ≤ 0 then "0." ++ String.ofList (List.replicate (-point).toNat '0' ++ digits)
  else
    let before := digits.take point.toNat
    let padding := List.replicate (point.toNat - digits.length) '0'
    let after := digits.drop point.toNat
    String.ofList (before ++ padding) ++ "." ++ (if after.isEmpty then "0" else String.ofList after)

def scientific (digits : List Char) (point : Int) : String :=
  match digits with
  | [] => ""
  | first :: rest =>
    String.ofList (first :: (if rest.isEmpty then [] else '.' :: rest)) ++ exponentText (point - 1)

/-- The shortest text of a number. -/
def text : Binary64 → String
  | .notANumber => "nan"
  | .infinite negative => if negative then "-inf" else "inf"
  | .finite negative mantissa exponent =>
    let sign := if negative then "-" else ""
    if mantissa = 0 then sign ++ "0.0"
    else
      let (count, place) := shortest mantissa exponent
      let all := Nat.toDigits 10 count
      let digits := dropTrailingZeros all
      let point := (all.length : Int) + place
      if placedPoints.above < point && point ≤ placedPoints.upTo then
        sign ++ placed digits point
      else sign ++ scientific digits point

end Binary64

end GridRobot
