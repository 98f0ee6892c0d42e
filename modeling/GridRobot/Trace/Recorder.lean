/-
This file records a run as a trace file.
-/

import GridRobot.FileTree

namespace GridRobot

/-- The state that an attempt leaves behind, and the failure that ended it early. -/
structure Attempt (state : Type) where
  state : state
  failure : Option Failure := none

namespace Trace

/-- Why a text cannot be kept in its cell. -/
def textFault? (text : WideString) : Option Failure :=
  if text.isEncodable then none else some .unencodable

/-- Why a number cannot be kept in its cell. -/
def numberFault? (value : Int) : Option Failure :=
  if TraceRow.fitsWord value then none else some (.overflow .traceCell)

/-- The columns in their order. The names of directions can always be kept. -/
def columnFaults : List (TraceRow → Option Failure) :=
  [fun row => textFault? row.runId, fun row => numberFault? row.step, fun row => textFault? row.action,
    fun row => numberFault? row.x, fun row => numberFault? row.y, fun row => numberFault? row.bag,
    fun row => numberFault? row.boardBeepers]

/-- Why rows cannot be written: they are taken column by column. -/
def fault? (rows : List TraceRow) : Option Failure :=
  columnFaults.findSome? fun cell => rows.findSome? cell

end Trace

/-- Rows wait in the buffer, last first, until there are as many as the threshold; then they are written at once.
`groups` holds the groups of the file that is being written. -/
structure Recorder where
  path : Path
  runId : WideString
  threshold : Nat
  buffer : List TraceRow := []
  groups : Trace := []
  rowsWritten : Nat := 0
  closed : Bool := false
  deriving Repr

namespace Recorder

def defaultThreshold : Nat := 8192

/-- A new recorder. The directory of its file is made before anything is recorded. -/
def create (path : Path) (runId : WideString) (threshold : Int) : Except Failure Recorder :=
  if threshold < 1 then .error (.refused .flushThreshold)
  else .ok { path, runId, threshold := threshold.toNat }

/-- Writes the buffer. The file is opened when something is written for the first time. -/
def flush (recorder : Recorder) (files : FileTree) (directory : List String) :
    Attempt (Recorder × FileTree) :=
  if recorder.buffer.isEmpty then { state := (recorder, files) }
  else
    let rows := recorder.buffer.reverse
    match Trace.fault? rows with
    | some failure => { state := (recorder, files), failure := some failure }
    | none =>
      let written := { recorder with buffer := [], groups := recorder.groups ++ Trace.ofRows rows }
      if recorder.groups.isEmpty then
        match files.write directory recorder.path .unfinishedTrace with
        | .error error => { state := (recorder, files), failure := some (.file error) }
        | .ok opened => { state := (written, opened) }
      else { state := (written, files) }

/-- Adds a row to the buffer. -/
def add (recorder : Recorder) (action : WideString) (world : World) : Recorder :=
  { recorder with
    buffer := TraceRow.ofWorld recorder.runId action world :: recorder.buffer
    rowsWritten := recorder.rowsWritten + 1 }

def isFull (recorder : Recorder) : Bool :=
  recorder.threshold ≤ recorder.buffer.length

/-- Adds a row, and flushes when the threshold is reached. -/
def record (recorder : Recorder) (files : FileTree) (directory : List String)
    (action : WideString) (world : World) : Attempt (Recorder × FileTree) :=
  let added := recorder.add action world
  if added.isFull then added.flush files directory else { state := (added, files) }

def recordStart (recorder : Recorder) (files : FileTree) (directory : List String)
    (world : World) : Attempt (Recorder × FileTree) :=
  recorder.record files directory ("start" : String) world

/-- Writes what is left and completes the file; a file without rows holds one empty group. Closing
again does nothing. -/
def close (recorder : Recorder) (files : FileTree) (directory : List String) :
    Attempt (Recorder × FileTree) :=
  if recorder.closed then { state := (recorder, files) }
  else
    let attempt := { recorder with closed := true }.flush files directory
    match attempt.failure with
    | some _ => attempt
    | none =>
      let (flushed, files) := attempt.state
      let trace := if flushed.groups.isEmpty then [[]] else flushed.groups
      match files.write directory flushed.path (.trace trace) with
      | .error error => { state := (flushed, files), failure := some (.file error) }
      | .ok completed => { state := ({ flushed with groups := [] }, completed) }

end Recorder

end GridRobot
