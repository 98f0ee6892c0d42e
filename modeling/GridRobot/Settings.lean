/-
This file holds the settings of a run.
-/

import GridRobot.Path
import GridRobot.Text.WideString

namespace GridRobot

namespace Settings

def defaultMap : String := "map.txt"

def defaultProgram : String := "instructions.txt"

def defaultBanner : String := "LOGO.txt"

def defaultDelay : Int := 500

def defaultRunId : String := "run"

def defaultTheme : String := "default"

end Settings

/-- Only the beepers, the map and the program decide what a run does; the other settings choose
what is shown and stored of it. -/
structure Settings where
  beepers : Int := 0
  map : Path := Path.ofString Settings.defaultMap
  program : Path := Path.ofString Settings.defaultProgram
  delay : Int := Settings.defaultDelay
  display : Bool := true
  banner : Option Path := none
  trace : Option Path := none
  snapshot : Option Path := none
  runId : WideString := Settings.defaultRunId
  theme : String := Settings.defaultTheme
  deriving DecidableEq, Repr

/-- Settings are checked in this order. -/
def Settings.check (settings : Settings) : Except Refusal Settings :=
  if settings.beepers < 0 then .error .initialBeepers
  else if settings.delay < 0 then .error .frameDelay
  else if settings.runId = ("" : String) then .error .emptyRunId
  else .ok settings

end GridRobot
