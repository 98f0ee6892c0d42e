/-
This file takes settings from the command line and from a settings document.
-/

import GridRobot.Json.Parser
import GridRobot.Settings
import GridRobot.Theme

namespace GridRobot

namespace Json

def isYes (word : String) : Bool :=
  ["1", "true", "yes", "on"].contains word

def isNo (word : String) : Bool :=
  ["0", "false", "no", "off"].contains word

/-- A word without the blanks around it and with its capital letters made small. -/
def plainWord (text : String) : String :=
  String.ofList ((Text.trim text.toList).map Char.toLower)

/-- A truth value, or a word for one. -/
def asBool (key : String) : Json → Except Failure Bool
  | .bool value => .ok value
  | .string value =>
    if isYes (plainWord value.shown) then .ok true
    else if isNo (plainWord value.shown) then .ok false
    else .error (.refused (.notBoolean key))
  | _ => .error (.refused (.notBoolean key))

/-- A whole number, a real number without a fraction, or a numeral. -/
def asInt (key : String) : Json → Except Failure Int
  | .int value => .ok value
  | .real .notANumber => .error (.refused .notANumber)
  | .real (.infinite _) => .error (.overflow .infinite)
  | .real (.finite negative mantissa exponent) =>
    if Binary64.isWhole mantissa exponent then .ok (Binary64.truncate negative mantissa exponent)
    else .error (.refused (.notWhole key (.finite negative mantissa exponent)))
  | .string value => (Numeral.integer value).mapError fun error => .refused (.numeral error)
  | _ => .error (.refused (.notInteger key))

/-- A path; `null` is none. Paths have no surrogates, so a text with surrogates is taken as it is shown. -/
def asPath (key : String) : Json → Except Failure (Option Path)
  | .null => .ok none
  | .string value => .ok (some (Path.ofString value.shown))
  | _ => .error (.refused (.notAPath key))

/-- The value of a field; a document that is no object has no fields to ask for. -/
def field? (key : String) : Json → Except Failure (Option Json)
  | .object fields => .ok (find? key fields)
  | _ => .error .notAnObject

end Json

/-- What the command line gives. -/
structure GivenSettings where
  beepers : Option Int := none
  map : Option Path := none
  program : Option Path := none
  delay : Option Int := none
  display : Option Bool := none
  banner : Option Path := none
  trace : Option Path := none
  snapshot : Option Path := none
  runId : Option WideString := none
  theme : Option String := none
  deriving Repr

namespace Settings

/-- What is given comes before the document, and the document before the default. -/
def choose {α : Type} (given : Option α) (document : Json) (key : String) (default : α)
    (read : Json → Except Failure α) : Except Failure α :=
  match given with
  | some value => .ok value
  | none =>
    match document.field? key with
    | .error failure => .error failure
    | .ok none => .ok default
    | .ok (some value) => read value

/-- The text of any value. -/
def anyText (value : Json) : Except Failure WideString :=
  .ok value.text

/-- The text of any value as a name that is looked up. No name that is known has surrogates or the replacement
character. -/
def anyName (value : Json) : Except Failure String :=
  .ok value.text.shown

def anyPath (value : Json) : Except Failure Path :=
  .ok (Path.ofString value.text.shown)

/-- Settings are read in this order and checked at the end, so that the first fault is reported. -/
def ofDocument (given : GivenSettings) (document : Json) : Except Failure Settings := do
  let banner ← choose (given.banner.map some) document "banner" (some (Path.ofString defaultBanner))
    (Json.asPath "banner")
  let beepers ← choose given.beepers document "beepers" 0 (Json.asInt "beepers")
  let map ← choose given.map document "map" (Path.ofString defaultMap) anyPath
  let program ← choose given.program document "program" (Path.ofString defaultProgram) anyPath
  let delay ← choose given.delay document "frame_delay" defaultDelay (Json.asInt "frame_delay")
  let display ← choose given.display document "display" true (Json.asBool "display")
  let trace ← choose (given.trace.map some) document "trace" none (Json.asPath "trace")
  let snapshot ← choose (given.snapshot.map some) document "snapshot" none (Json.asPath "snapshot")
  let runId ← choose given.runId document "run_id" defaultRunId anyText
  let themeName ← choose given.theme document "theme" defaultTheme anyName
  let theme ← Theme.find themeName
  let settings : Settings :=
    { beepers := beepers
      map := map
      program := program
      delay := delay
      display := display
      banner := banner
      trace := trace
      snapshot := snapshot
      runId := runId
      theme := theme.name }
  settings.check.mapError .refused

end Settings

end GridRobot
