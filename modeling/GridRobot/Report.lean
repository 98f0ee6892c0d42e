/-
This file sums up a run.
-/

import GridRobot.Failure

namespace GridRobot

/-- The state at the end of a run, and the fault that ended it if it did not complete. -/
structure Report where
  steps : Nat
  position : Cell
  facing : Direction
  bag : Int
  boardBeepers : Nat
  fault : Option Fault
  deriving DecidableEq, Repr

namespace Report

def completed (report : Report) : Bool :=
  report.fault.isNone

def ofWorld (world : World) (fault : Option Fault) : Report :=
  { steps := world.steps
    position := world.robot.position
    facing := world.robot.facing
    bag := world.robot.bag
    boardBeepers := world.beepers.length
    fault := fault }

/-- Faults of the program and nesting that is too deep are reported; any other reason to stop is a
failure of the run itself. -/
def ofExecution (execution : Execution) : Except Failure Report :=
  match execution.stop with
  | none => .ok (ofWorld execution.world none)
  | some (.fault fault) => .ok (ofWorld execution.world (some fault))
  | some .nestingTooDeep => .ok (ofWorld execution.world (some ⟨.nestingTooDeep, none⟩))
  | some stop => .error stop.failure

end Report

end GridRobot
