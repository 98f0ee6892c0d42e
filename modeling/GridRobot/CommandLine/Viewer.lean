/-
This file holds the command that makes pictures of maps and traces.
-/

import GridRobot.CommandLine.Runner

namespace GridRobot.CommandLine

def viewerOptions : List OptionSpec :=
  [⟨["--theme"], .text, false⟩]

def animateOptions : List OptionSpec :=
  [⟨["--trace"], .text, true⟩,
    ⟨["--map"], .text, true⟩,
    ⟨["--output"], .text, true⟩,
    ⟨["--fps"], .integer, false⟩,
    ⟨["--run-id"], .text, false⟩,
    ⟨["--base-dir"], .text, false⟩]

def mapOptions : List OptionSpec :=
  [⟨["--map"], .text, true⟩,
    ⟨["--output"], .text, true⟩,
    ⟨["--title"], .text, false⟩]

inductive ViewerCommand where
  | animate
  | map
  deriving DecidableEq, Repr

namespace ViewerCommand

def name : ViewerCommand → String
  | .animate => "animate"
  | .map => "map"

def all : List ViewerCommand := [.animate, .map]

def options : ViewerCommand → List OptionSpec
  | .animate => animateOptions
  | .map => mapOptions

end ViewerCommand

def viewerHelp : String :=
  "Rendering tools for robot runs\n" ++
    String.join (ViewerCommand.all.map fun command => s!"  {command.name}\n")

def pathOption (parsed : ParsedOptions) (name : String) : Path :=
  Path.ofString ((parsed.text? name).getD "")

/-- Carries out a command with its options. -/
def view (command : ViewerCommand) (parsed : ParsedOptions) (theme : Theme) : Command := do
  match command with
  | .animate =>
    discard (Job.saveAnimation {
      trace := pathOption parsed "--trace"
      map := pathOption parsed "--map"
      output := pathOption parsed "--output"
      frameRate := (parsed.integer? "--fps").getD 4
      base := some (Path.ofString ((parsed.text? "--base-dir").getD "."))
      runId := (parsed.text? "--run-id").map WideString.ofString
      theme := theme })
  | .map =>
    let world ← Job.ofFiles fun files directory =>
      files.loadMap directory (pathOption parsed "--map")
    discard (Job.saveSnapshot world (pathOption parsed "--output") (parsed.text? "--title") theme)
  return 0

/-- A command and its options, with the words before it that nothing takes. -/
structure ViewerCall where
  command : ViewerCommand
  parsed : ParsedOptions
  extra : List String
  theme : String

def readViewerCall (words : List String) : Except Interruption ViewerCall :=
  match Options.parse viewerOptions true words with
  | .error interruption => .error interruption
  | .ok outer =>
    match outer.command with
    | none | some [] => .error (.usage (.missing ["command"]))
    | some (word :: rest) =>
      match ViewerCommand.all.find? fun command => command.name = word with
      | none => .error (.usage (.unknownCommand word (ViewerCommand.all.map ViewerCommand.name)))
      | some command =>
        match Options.parse command.options false rest with
        | .error interruption => .error interruption
        | .ok inner =>
          .ok ⟨command, inner, outer.extra ++ inner.extra,
            (outer.text? "--theme").getD Settings.defaultTheme⟩

/-- The command that makes pictures of maps and traces. -/
def viewer (words : List String) : Command :=
  match readViewerCall words with
  | .error interruption => interrupt viewerHelp interruption
  | .ok call =>
    if call.extra ≠ [] then usageExit (UsageError.message (.unrecognized call.extra))
    else
      match Theme.find call.theme with
      | .error (.refused refusal) => usageExit refusal.message
      | .error failure => throw failure
      | .ok theme => view call.command call.parsed theme

end GridRobot.CommandLine
