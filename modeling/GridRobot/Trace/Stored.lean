/-
This file keeps traces as documents.

The main statement is that a trace is read back from its document.
-/

import GridRobot.FileTree
import GridRobot.Json.Printer

namespace GridRobot

namespace TraceRow

/-- A row is the list of its values in the order of the columns. -/
def document (row : TraceRow) : Json :=
  .array [.string row.runId, .int row.step, .string row.action, .int row.x, .int row.y,
    .string row.facing, .int row.bag, .int row.boardBeepers]

def ofDocument? : Json → Option TraceRow
  | .array [.string runId, .int step, .string action, .int x, .int y, .string facing, .int bag,
      .int boardBeepers] =>
    some ⟨runId, step, action, x, y, facing.shown, bag, boardBeepers⟩
  | _ => none

theorem ofDocument?_document (row : TraceRow) : ofDocument? row.document = some row := by
  simp only [document, ofDocument?, WideString.shown_ofString]

end TraceRow

namespace Trace

def groupDocument (rows : List TraceRow) : Json :=
  .array (rows.map TraceRow.document)

def ofGroup? : Json → Option (List TraceRow)
  | .array rows => rows.mapM TraceRow.ofDocument?
  | _ => none

/-- The document of a trace names its version and columns before the groups of rows. -/
def document (trace : Trace) : Json :=
  .object [("version", .string version), ("columns", .array (columns.map fun name : String => .string name)),
    ("groups", .array (trace.map groupDocument))]

def ofDocument? : Json → Option Trace
  | .object fields =>
    match Json.find? "version" fields, Json.find? "groups" fields with
    | some (.string found), some (.array groups) => if found = version then groups.mapM ofGroup? else none
    | _, _ => none
  | _ => none

theorem ofGroup?_groupDocument (rows : List TraceRow) :
    ofGroup? (groupDocument rows) = some rows := by
  simp only [groupDocument, ofGroup?]
  induction rows with
  | nil => rfl
  | cons row rest inductionHypothesis =>
      simp [List.mapM_cons, TraceRow.ofDocument?_document, inductionHypothesis]

theorem ofDocument?_document (trace : Trace) : ofDocument? trace.document = some trace := by
  have found (groups : Json) : Json.find? "groups" [("version", .string version),
      ("columns", .array (columns.map fun name : String => .string name)), ("groups", groups)] = some groups := by
    simp [Json.find?, WideString.ofString_inj]
  have versioned (rest : List (WideString × Json)) :
      Json.find? "version" (("version", .string version) :: rest) = some (.string version) := by
    simp [Json.find?]
  rw [document, ofDocument?, versioned, found]
  simp only [if_true]
  induction trace with
  | nil => rfl
  | cons rows rest inductionHypothesis =>
      simp [List.mapM_cons, ofGroup?_groupDocument, inductionHypothesis]

end Trace

namespace Content

/-- What the bytes of a file hold: a trace if they are the document of one. -/
def ofBytes (data : List UInt8) : Content :=
  match Text.decodeUtf8 (data.map UInt8.toNat) with
  | .error _ => .bytes data
  | .ok text =>
    match Json.parse (String.ofList text) with
    | .error _ => .bytes data
    | .ok document => ((Trace.ofDocument? document).map Content.trace).getD (.bytes data)

end Content

end GridRobot
