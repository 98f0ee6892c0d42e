/-
This file holds the command that runs a program on a map.
-/

import GridRobot.CommandLine.Options
import GridRobot.Json.Printer
import GridRobot.Session
import GridRobot.Settings.Document

namespace GridRobot

namespace Report

def optionalText : Option String → Json
  | none => .null
  | some text => .string text

def optionalInt : Option Int → Json
  | none => .null
  | some value => .int value

/-- The last fields of a summary, which tell the fault. -/
def faultFields (fault : Option Fault) : List (String × Json) :=
  [("error_kind", optionalText (fault.map fun fault => fault.kind.name)),
    ("error_line", optionalInt (fault.bind Fault.line)),
    ("error_message", optionalText (fault.map Fault.message))]

def fields (report : Report) : List (String × Json) :=
  [("completed", .bool report.completed),
    ("steps", .int report.steps),
    ("x", .int report.position.x),
    ("y", .int report.position.y),
    ("facing", .string report.facing.name),
    ("bag", .int report.bag),
    ("board_beepers", .int report.boardBeepers)] ++ faultFields report.fault

/-- The summary of a run that could not start. -/
def startFields (fault : Fault) : List (String × Json) :=
  ("completed", .bool false) :: faultFields (some fault)

end Report

namespace CommandLine

/-- A command ends with an exit status. -/
abbrev Command := Job Nat

def print (text : String) : Job Unit :=
  modify (Workspace.print text)

def printError (text : String) : Job Unit :=
  modify (Workspace.printError text)

/-- A command that was not called as it should be. -/
def usageExit (message : String) : Command := do
  printError s!"error: {message}\n"
  return 2

def interrupt (help : String) : Interruption → Command
  | .help => do
    print help
    return 0
  | .usage error => usageExit error.message

def runnerOptions : List OptionSpec :=
  [⟨["--config"], .text, false⟩,
    ⟨["--beepers"], .integer, false⟩,
    ⟨["--map"], .text, false⟩,
    ⟨["--program"], .text, false⟩,
    ⟨["--frame-delay"], .integer, false⟩,
    ⟨["--display", "--no-display"], .switch, false⟩,
    ⟨["--banner"], .text, false⟩,
    ⟨["--trace"], .text, false⟩,
    ⟨["--snapshot"], .text, false⟩,
    ⟨["--run-id"], .text, false⟩,
    ⟨["--theme"], .text, false⟩]

def runnerHelp : String :=
  "Run a robot program on a grid map\n" ++
    String.join (runnerOptions.map fun spec => s!"  {spec.label}\n")

def givenSettings (parsed : ParsedOptions) : GivenSettings :=
  { beepers := parsed.integer? "--beepers"
    map := (parsed.text? "--map").map Path.ofString
    program := (parsed.text? "--program").map Path.ofString
    delay := parsed.integer? "--frame-delay"
    display := parsed.switch? "--display"
    banner := (parsed.text? "--banner").map Path.ofString
    trace := (parsed.text? "--trace").map Path.ofString
    snapshot := (parsed.text? "--snapshot").map Path.ofString
    runId := (parsed.text? "--run-id").map WideString.ofString
    theme := parsed.text? "--theme" }

/-- What reading a settings document leads to: the document, or a message about its use. -/
inductive DocumentResult where
  | document (value : Json)
  | misused (message : String)

/-- Reads a settings document; without a path it is an object without fields. -/
def readDocument : Option Path → Job DocumentResult
  | none => return .document (.object [])
  | some path => do
    let workspace ← get
    match workspace.files.readText workspace.directory path with
    | .error (.file .notFound) => return .misused s!"Config file not found: {path.text}"
    | .error failure => throw failure
    | .ok text =>
      match Json.parse (String.ofList text) with
      | .ok value => return .document value
      | .error (.malformed fault) =>
        if fault.problem = .nestedTooDeep then throw .nestingTooDeep
        else return .misused s!"Config file is not valid JSON: {path.text}: {fault.message}"
      | .error (.tooManyDigits count) => throw (.refused (.numeral (.tooManyDigits count)))

def finish (report : Report) : Command := do
  print (Json.encodeReport report.fields ++ "\n")
  match report.fault with
  | none => return 0
  | some fault =>
    printError s!"error: {fault.message}\n"
    return 1

/-- Runs with settings. A missing file is taken for the program's, and a fault that comes before
the run is summed up like one of the run. -/
def runWith (fuel : Nat) (settings : Settings) : Command := fun workspace =>
  match Session.run fuel settings workspace with
  | .ok report reached => finish report reached
  | .error (.file .notFound) reached =>
    usageExit s!"Instruction file not found: {settings.program.text}" reached
  | .error (.fault fault) reached =>
    (do
      print (Json.encodeReport (Report.startFields fault) ++ "\n")
      return 1 : Command) reached
  | .error failure reached => .error failure reached

/-- The command that runs a program on a map. -/
def runner (fuel : Nat) (words : List String) : Command :=
  match Options.parse runnerOptions false words with
  | .error interruption => interrupt runnerHelp interruption
  | .ok parsed =>
    if parsed.extra ≠ [] then usageExit (UsageError.message (.unrecognized parsed.extra))
    else do
      match ← readDocument ((parsed.text? "--config").map Path.ofString) with
      | .misused message => usageExit message
      | .document document =>
        match Settings.ofDocument (givenSettings parsed) document with
        | .error (.refused refusal) => usageExit refusal.message
        | .error failure => throw failure
        | .ok settings => runWith fuel settings

end CommandLine

end GridRobot
