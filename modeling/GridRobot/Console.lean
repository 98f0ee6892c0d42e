/-
This file shows a run on the console, and tells listeners of every action.
-/

import GridRobot.Trace.Recorder
import GridRobot.Workspace

namespace GridRobot

namespace Nesting

/-- What a recorder uses up to add a row. -/
def rowCost : Nat := 5

/-- What a recorder uses up to write its rows. -/
def flushCost : Nat := 16

/-- What a display uses up to pause and to clear the screen. -/
def clearCost : Nat := 4

/-- What a display uses up to draw the board. -/
def frameCost : Nat := 6

end Nesting

def clearScreen : String := "\x1b[2J\x1b[H"

/-- A display draws the board after a pause and counts its frames. -/
structure Display where
  delay : Nat
  clear : Bool := true
  frames : Nat := 0
  deriving Repr

namespace Display

def create (delay : Int) (clear : Bool) : Except Failure Display :=
  if delay < 0 then .error (.refused .frameDelay) else .ok { delay := delay.toNat, clear }

/-- What is printed before the board. -/
def heading (display : Display) : String :=
  if display.clear then clearScreen else ""

def frame (display : Display) (world : World) : String :=
  display.heading ++ Map.draw world ++ "\n"

/-- The pause before a frame. -/
def rest (display : Display) (workspace : Workspace) : Except Failure Workspace :=
  if display.delay = 0 then .ok workspace
  else (workspace.sleep display.delay).mapError .overflow

def draw (display : Display) (world : World) (workspace : Workspace) :
    Attempt (Display × Workspace) :=
  match display.rest workspace with
  | .error failure => { state := (display, workspace), failure := some failure }
  | .ok rested =>
    { state := ({ display with frames := display.frames + 1 }, rested.print (display.frame world)) }

/-- Without the nesting for the board, a display pauses and clears the screen at most. -/
def interrupt (left : Nat) (display : Display) (workspace : Workspace) :
    Attempt (Display × Workspace) :=
  if left < Nesting.clearCost then
    { state := (display, workspace), failure := some .nestingTooDeep }
  else
    match display.rest workspace with
    | .error failure => { state := (display, workspace), failure := some failure }
    | .ok rested =>
      { state := (display, rested.print display.heading), failure := some .nestingTooDeep }

end Display

namespace Recorder

/-- Without the nesting for a row, nothing is recorded, and without that for writing the row stays in the
buffer. -/
def interrupt (left : Nat) (recorder : Recorder) (action : Action) (world : World)
    (workspace : Workspace) : Attempt (Recorder × Workspace) :=
  { state := (if left < Nesting.rowCost then recorder else recorder.add action.name world, workspace)
    failure := some .nestingTooDeep }

/-- Whether there is the nesting that a recorder uses up for a row, and for writing its rows if it has as many
as its threshold then. -/
def hasRoom (left : Nat) (recorder : Recorder) (action : Action) (world : World) : Bool :=
  Nesting.rowCost ≤ left &&
    ((recorder.add action.name world).isFull → Nesting.flushCost ≤ left)

end Recorder

/-- Someone who is told of every action: `notify left` uses the nesting that is left, may work on the workspace,
and fails with what it raises. -/
class Listener (α : Type) where
  notify : (left : Nat) → α → Action → World → Workspace → Attempt (α × Workspace)

namespace Listener

/-- Tells the listeners in turn, up to the first that fails. -/
def notifyAll {α : Type} [Listener α] (left : Nat) (action : Action) (world : World) :
    List α → Workspace → Attempt (List α × Workspace)
  | [], workspace => { state := ([], workspace) }
  | listener :: rest, workspace =>
    let attempt := notify left listener action world workspace
    let (told, workspace) := attempt.state
    match attempt.failure with
    | some failure => { state := (told :: rest, workspace), failure := some failure }
    | none =>
      let others := notifyAll left action world rest workspace
      { state := (told :: others.state.1, others.state.2), failure := others.failure }

end Listener

instance : Listener Display where
  notify left display _ world workspace :=
    if left < Nesting.frameCost then display.interrupt left workspace
    else display.draw world workspace

instance : Listener Recorder where
  notify left recorder action world workspace :=
    if recorder.hasRoom left action world then
      let attempt := recorder.record workspace.files workspace.directory action.name world
      { state := (attempt.state.1, { workspace with files := attempt.state.2 })
        failure := attempt.failure }
    else recorder.interrupt left action world workspace

/-- The listeners of a run from its settings. -/
inductive Observer where
  | display (display : Display)
  | recorder (recorder : Recorder)

instance : Listener Observer where
  notify left observer action world workspace :=
    match observer with
    | .display screen =>
      let attempt := Listener.notify left screen action world workspace
      { state := (.display attempt.state.1, attempt.state.2), failure := attempt.failure }
    | .recorder book =>
      let attempt := Listener.notify left book action world workspace
      { state := (.recorder attempt.state.1, attempt.state.2), failure := attempt.failure }

end GridRobot
