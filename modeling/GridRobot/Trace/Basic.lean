/-
This file holds the rows of a trace.
-/

import GridRobot.Text.WideString
import GridRobot.World.Basic

namespace GridRobot

/-- The state after an action. -/
structure TraceRow where
  runId : WideString
  step : Int
  action : WideString
  x : Int
  y : Int
  facing : String
  bag : Int
  boardBeepers : Int
  deriving DecidableEq, Repr

/-- A stored trace is the list of the groups of rows that were written together. -/
abbrev Trace := List (List TraceRow)

namespace TraceRow

def ofWorld (runId action : WideString) (world : World) : TraceRow :=
  { runId := runId
    step := world.steps
    action := action
    x := world.robot.position.x
    y := world.robot.position.y
    facing := world.robot.facing.name
    bag := world.robot.bag
    boardBeepers := world.beepers.length }

/-- The first number above the signed numbers of 64 bits. -/
def wordLimit : Int := 9223372036854775808

def fitsWord (value : Int) : Bool :=
  -wordLimit ≤ value && value < wordLimit

end TraceRow

namespace Trace

def columns : List String :=
  ["run_id", "step", "action", "x", "y", "facing", "bag", "board_beepers"]

def version : String := "1"

def rows (trace : Trace) : List TraceRow :=
  trace.flatten

/-- The most rows that are kept in one group. -/
def groupLimit : Nat := 1048576

/-- Cuts rows into groups of one size; the last group has what is left. Every group takes a row, so as much fuel as
there are rows is enough. -/
def groupsOf (size : Nat) : Nat → List TraceRow → Trace
  | 0, _ => []
  | _ + 1, [] => []
  | fuel + 1, rows => rows.take size :: groupsOf size fuel (rows.drop size)

/-- The groups that rows are kept in if they are written at once. -/
def ofRows (rows : List TraceRow) : Trace :=
  groupsOf groupLimit rows.length rows

end Trace

end GridRobot
