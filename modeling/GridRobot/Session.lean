/-
This file carries out a run from its settings: it loads the sources, runs the program, and shows
and stores what the settings ask for.
-/

import GridRobot.Report
import GridRobot.Settings
import GridRobot.Stage

namespace GridRobot

namespace Session

/-- Prints the lines of a banner; a file that is missing has none. -/
def showBanner (path : Path) : Job Unit := do
  let workspace ← get
  match workspace.files.readLines workspace.directory path with
  | .ok lines => set (workspace.print (String.join (lines.map (· ++ "\n"))))
  | .error (.file .notFound) => return ()
  | .error failure => throw failure

/-- Draws the board and gives the display that has drawn it. -/
def draw (display : Display) (world : World) : Job Display := do
  let attempt := display.draw world (← get)
  set attempt.state.2
  match attempt.failure with
  | some failure => throw failure
  | none => return attempt.state.1

/-- A display that has shown the start. -/
def startDisplay (settings : Settings) (world : World) : Job Display := do
  match settings.banner with
  | some path => showBanner path
  | none => pure ()
  let display ← Job.ofExcept (Display.create settings.delay true)
  draw display world

/-- A recorder that has recorded the start. -/
def startRecorder (settings : Settings) (path : Path) (world : World) : Job Recorder := do
  let recorder ← Job.ofExcept (Recorder.create path settings.runId Recorder.defaultThreshold)
  Job.ensureParent path
  let workspace ← get
  let attempt := recorder.recordStart workspace.files workspace.directory world
  set { workspace with files := attempt.state.2 }
  match attempt.failure with
  | some failure => throw failure
  | none => return attempt.state.1

/-- Closes every recorder. -/
def closeRecorders : List Observer → Job Unit
  | [] => return ()
  | .display _ :: rest => closeRecorders rest
  | .recorder recorder :: rest => do
    let workspace ← get
    let attempt := recorder.close workspace.files workspace.directory
    set { workspace with files := attempt.state.2 }
    match attempt.failure with
    | some failure => throw failure
    | none => closeRecorders rest

def showEnd (world : World) : List Observer → Job Unit
  | [] => return ()
  | .recorder _ :: rest => showEnd world rest
  | .display display :: rest => do
    discard (draw display world)
    showEnd world rest

/-- Everything that is loaded before anything is shown or stored. -/
structure Sources where
  theme : Theme
  world : World
  program : Program

def load (settings : Settings) : Job Sources := do
  let theme ← Job.ofExcept (Theme.find settings.theme)
  let world ← Job.ofFiles fun files directory => files.loadMap directory settings.map
  let lines ← Job.ofFiles fun files directory => files.readLines directory settings.program
  let world ← Job.ofExcept ((world.setBag settings.beepers).mapError fun error =>
    .refused (.world error))
  return ⟨theme, world, Program.classify lines⟩

def startObservers (settings : Settings) (world : World) : Job (List Observer) := do
  let displays ←
    if settings.display then
      let display ← startDisplay settings world
      pure [Observer.display display]
    else pure []
  let recorders ← match settings.trace with
    | some path =>
      let recorder ← startRecorder settings path world
      pure [Observer.recorder recorder]
    | none => pure []
  return displays ++ recorders

/-- Runs a program before the observers. The recorders are closed in any case, and then the run is reported or the
failure of an observer is handed on. -/
def perform (fuel : Nat) (sources : Sources) (observers : List Observer) :
    Job (Report × World × List Observer) := do
  let watched := sources.program.watch fuel sources.world {} observers (← get)
  set watched.workspace
  closeRecorders watched.listeners
  match watched.failure with
  | some failure => throw failure
  | none =>
    let report ← Job.ofExcept (Report.ofExecution watched.execution)
    return (report, watched.execution.world, watched.listeners)

def run (fuel : Nat) (settings : Settings) : Job Report := do
  let sources ← load settings
  let observers ← startObservers settings sources.world
  let (report, world, observers) ← perform fuel sources observers
  showEnd world observers
  match settings.snapshot with
  | some path => discard (Job.saveSnapshot world path none sources.theme)
  | none => pure ()
  return report

end Session

end GridRobot
