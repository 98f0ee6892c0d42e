/-
This file holds everything that can go wrong, with its wording.
-/

import GridRobot.Json.Parser
import GridRobot.Program.Run
import GridRobot.Text.Utf8

namespace GridRobot

/-- A value that an operation does not take. -/
inductive Refusal where
  | world (error : WorldError)
  | spanBounds
  | numeral (error : NumeralError)
  | unwritable
  | notANumber
  | flushThreshold
  | frameDelay
  | initialBeepers
  | emptyRunId
  | unknownTheme
  | notBoolean (key : String)
  | notInteger (key : String)
  | notWhole (key : String) (value : Binary64)
  | notAPath (key : String)
  | frameRate
  | outsideBase (path : String)
  | noTraceRows (path : String)
  | negativeGrid
  deriving DecidableEq, Repr

/-- A number that does not fit where it should be kept. -/
inductive Overflow where
  | infinite
  | quotient
  | pause
  | traceCell
  | spanLength
  deriving DecidableEq, Repr

inductive FileError where
  | notFound
  | isDirectory
  | notDirectory
  | alreadyExists
  deriving DecidableEq, Repr

inductive Failure where
  | fault (fault : Fault)
  | refused (refusal : Refusal)
  | overflow (overflow : Overflow)
  | undecodable (error : Text.Utf8Error)
  | unencodable
  | file (error : FileError)
  | missingLine
  | nestingTooDeep
  | outOfFuel
  | notAnObject
  | notATrace
  | unknownFacing (name : String)
  deriving DecidableEq, Repr

/-- The wording for a number that is too long to be written. -/
def Numeral.unwritableMessage : String :=
  s!"Exceeds the limit ({maxDigits} digits) for integer string conversion; " ++
    "use sys.set_int_max_str_digits() to increase the limit"

def WorldError.message : WorldError → String
  | .dimensions => "world dimensions must be >= 1x1"
  | .robotOutside position =>
    if position.isWritable then s!"robot start ({position.x}, {position.y}) is outside the grid"
    else Numeral.unwritableMessage
  | .negativeBag => "beepers must be >= 0"

/-- How much of a malformed numeral a message shows. -/
def NumeralError.shownLength : Nat := 200

def NumeralError.message : NumeralError → String
  | .malformed text =>
    "invalid literal for int() with base 10: " ++
      String.ofList ((Text.quotedChars text).take shownLength)
  | .tooManyDigits count =>
    s!"Exceeds the limit ({Numeral.maxDigits} digits) for integer string conversion: " ++
      s!"value has {count} digits; use sys.set_int_max_str_digits() to increase the limit"

def Refusal.message : Refusal → String
  | .world error => error.message
  | .spanBounds => "macro span must satisfy 0 <= start <= end"
  | .numeral error => error.message
  | .unwritable => Numeral.unwritableMessage
  | .notANumber => "cannot convert float NaN to integer"
  | .flushThreshold => "flush_threshold must be >= 1"
  | .frameDelay => "frame_delay_ms must be >= 0"
  | .initialBeepers => "initial_beepers must be >= 0"
  | .emptyRunId => "run_id must not be empty"
  | .unknownTheme => "theme must be one of dark, default"
  | .notBoolean key => s!"{key} must be a boolean value"
  | .notInteger key => s!"{key} must be an integer value"
  | .notWhole key value => s!"{key} must be an integer value, got {value.text}"
  | .notAPath key => s!"{key} must be a path"
  | .frameRate => "fps must be >= 1"
  | .outsideBase path => s!"Path escapes base_dir: {path}"
  | .noTraceRows path => s!"No trace rows found in {path}"
  | .negativeGrid => "negative dimensions are not allowed"

def Overflow.message : Overflow → String
  | .infinite => "cannot convert float infinity to integer"
  | .quotient => "integer division result too large for a float"
  | .pause => "timestamp too large to convert to C _PyTime_t"
  | .traceCell => "Python int too large to convert to C long"
  | .spanLength => "cannot fit 'int' into an index-sized integer"

def FileError.message : FileError → String
  | .notFound => "no such file or directory"
  | .isDirectory => "is a directory"
  | .notDirectory => "not a directory"
  | .alreadyExists => "file exists"

def Failure.message : Failure → String
  | .fault found => found.diagnostic.text
  | .refused refusal => refusal.message
  | .overflow cause => cause.message
  | .undecodable error => error.message
  | .unencodable => "surrogates cannot be encoded"
  | .file error => error.message
  | .missingLine => "a line that does not exist was read"
  | .nestingTooDeep => Cause.nestingTooDeep.message
  | .outOfFuel => "the run takes too many steps"
  | .notAnObject => "the settings are not an object"
  | .notATrace => "the file is not a trace"
  | .unknownFacing name => s!"there is no direction {Text.quoted name}"

/-- What a stopped run means outside of the run. -/
def Stop.failure : Stop → Failure
  | .fault cause => .fault cause
  | .tooManyDigits count => .refused (.numeral (.tooManyDigits count))
  | .unwritable => .refused .unwritable
  | .missingLine _ => .missingLine
  | .nestingTooDeep => .nestingTooDeep
  | .outOfFuel => .outOfFuel

end GridRobot
