/-
This file holds the colours of pictures.
-/

import GridRobot.Failure

namespace GridRobot

structure Theme where
  name : String
  emptyCell : String
  wall : String
  beeper : String
  robot : String
  path : String
  gridLine : String
  deriving DecidableEq, Repr

namespace Theme

def light : Theme :=
  { name := "default"
    emptyCell := "#f4f1ea"
    wall := "#3b3b3b"
    beeper := "#e0a526"
    robot := "#1f6fb4"
    path := "#8fb8de"
    gridLine := "#c9c3b6" }

def dark : Theme :=
  { name := "dark"
    emptyCell := "#1e1e1e"
    wall := "#8a8a8a"
    beeper := "#f2c14e"
    robot := "#5fb3f9"
    path := "#2f5f8a"
    gridLine := "#333333" }

def all : List Theme := [light, dark]

def find (name : String) : Except Failure Theme :=
  match all.find? fun theme => theme.name = name with
  | some theme => .ok theme
  | none => .error (.refused .unknownTheme)

end Theme

end GridRobot
