/-
This file finds the files that a command may read or write.
-/

import GridRobot.CommandLine.Viewer

namespace GridRobot.CommandLine

/-- The two tools of the command line. -/
inductive Tool where
  | runner
  | viewer
  deriving DecidableEq, Repr

/-- The word `view` at the front asks for the viewer; all other words are for the runner. -/
def Tool.ofWords : List String → Tool × List String
  | "view" :: rest => (.viewer, rest)
  | words => (.runner, words)

def Tool.command (fuel : Nat) : Tool → List String → Command
  | .runner, words => CommandLine.runner fuel words
  | .viewer, words => CommandLine.viewer words

def pathsOf (parsed : ParsedOptions) (names : List String) : List Path :=
  (names.filterMap parsed.text?).map Path.ofString

def defaultPaths : List Path :=
  [Settings.defaultMap, Settings.defaultProgram, Settings.defaultBanner].map Path.ofString

/-- Any value of a settings document may be a path. -/
def documentPaths : Json → List Path
  | .object fields => fields.map fun field => Path.ofString field.2.text.shown
  | _ => []

/-- The document that a run takes settings from, if it can be read. -/
def settingsDocument? (words : List String) (workspace : Workspace) : Option Json :=
  match Options.parse runnerOptions false words with
  | .error _ => none
  | .ok parsed =>
    match readDocument ((parsed.text? "--config").map Path.ofString) workspace with
    | .ok (.document document) _ => some document
    | _ => none

/-- The paths that the words of a run name, and the default ones. -/
def runnerPaths (words : List String) : List Path :=
  match Options.parse runnerOptions false words with
  | .error _ => []
  | .ok parsed =>
    pathsOf parsed ["--config", "--map", "--program", "--banner", "--trace", "--snapshot"] ++
      defaultPaths

/-- The paths that the words of a viewer's command name, taken from its base. -/
def viewerPaths (words : List String) : List Path :=
  match readViewerCall words with
  | .error _ => []
  | .ok call =>
    let base := Path.ofString ((call.parsed.text? "--base-dir").getD ".")
    (pathsOf call.parsed ["--trace", "--map", "--output"]).map base.join

def Tool.paths : Tool → List String → List Path
  | .runner, words => runnerPaths words
  | .viewer, words => viewerPaths words

end GridRobot.CommandLine
