import GridRobot.Proofs.Chronicle
import GridRobot.Proofs.Recording
import Mathlib.Data.List.Forall2

namespace GridRobot

/-- The rows of a buffer by columns: one list for each field of a row. -/
structure Columns where
  runId : List WideString := []
  step : List Int := []
  action : List WideString := []
  x : List Int := []
  y : List Int := []
  facing : List String := []
  bag : List Int := []
  boardBeepers : List Int := []

namespace Columns

def append (columns : Columns) (row : TraceRow) : Columns where
  runId := columns.runId ++ [row.runId]
  step := columns.step ++ [row.step]
  action := columns.action ++ [row.action]
  x := columns.x ++ [row.x]
  y := columns.y ++ [row.y]
  facing := columns.facing ++ [row.facing]
  bag := columns.bag ++ [row.bag]
  boardBeepers := columns.boardBeepers ++ [row.boardBeepers]

def sizes (columns : Columns) : List Nat :=
  [columns.runId.length, columns.step.length, columns.action.length, columns.x.length, columns.y.length,
    columns.facing.length, columns.bag.length, columns.boardBeepers.length]

/-- Why the columns cannot be kept, in the order in which they are taken. -/
def faults (columns : Columns) : List (Option Failure) :=
  [columns.runId.findSome? Trace.textFault?, columns.step.findSome? Trace.numberFault?,
    columns.action.findSome? Trace.textFault?, columns.x.findSome? Trace.numberFault?,
    columns.y.findSome? Trace.numberFault?, columns.bag.findSome? Trace.numberFault?,
    columns.boardBeepers.findSome? Trace.numberFault?]

/-- The rows that stand side by side, as far as all columns reach. -/
def sideBySide : List WideString → List Int → List WideString → List Int → List Int → List String → List Int →
    List Int → List TraceRow
  | runId :: runIds, step :: steps, action :: actions, x :: xs, y :: ys, facing :: facings, bag :: bags,
      boardBeepers :: boards =>
    ⟨runId, step, action, x, y, facing, bag, boardBeepers⟩ ::
      sideBySide runIds steps actions xs ys facings bags boards
  | _, _, _, _, _, _, _, _ => []

/-- The table that is written: all its values must be such as can be kept, and its columns of one length. -/
def table (columns : Columns) : Except Failure (List TraceRow) :=
  match columns.faults.findSome? id with
  | some failure => .error failure
  | none =>
    if columns.sizes.any (· ≠ columns.runId.length) then .error .notATrace
    else
      .ok (sideBySide columns.runId columns.step columns.action columns.x columns.y columns.facing columns.bag
        columns.boardBeepers)

def ofRows (rows : List TraceRow) : Columns where
  runId := rows.map TraceRow.runId
  step := rows.map TraceRow.step
  action := rows.map TraceRow.action
  x := rows.map TraceRow.x
  y := rows.map TraceRow.y
  facing := rows.map TraceRow.facing
  bag := rows.map TraceRow.bag
  boardBeepers := rows.map TraceRow.boardBeepers

section
variable (rows : List TraceRow)

theorem append_ofRows (row : TraceRow) : (ofRows rows).append row = ofRows (rows ++ [row]) := by
  simp [append, ofRows]

theorem sizes_ofRows : (ofRows rows).sizes = List.replicate 8 rows.length := by
  simp [sizes, ofRows, List.replicate]

theorem faults_ofRows : (ofRows rows).faults.findSome? id = Trace.fault? rows := by
  simp only [faults, ofRows, List.findSome?_map, Trace.fault?, Trace.columnFaults]
  rfl

theorem sideBySide_map : sideBySide (rows.map TraceRow.runId) (rows.map TraceRow.step)
    (rows.map TraceRow.action) (rows.map TraceRow.x) (rows.map TraceRow.y) (rows.map TraceRow.facing)
    (rows.map TraceRow.bag) (rows.map TraceRow.boardBeepers) = rows := by
  induction rows with
  | nil => rfl
  | cons row rest inductionHypothesis => simp only [List.map_cons, sideBySide, inductionHypothesis]

/-- The table of columns that were filled row by row has the rows again. -/
theorem table_ofRows : (ofRows rows).table =
    match Trace.fault? rows with
    | some failure => .error failure
    | none => .ok rows := by
  have even : (ofRows rows).sizes.any (· ≠ (ofRows rows).runId.length) = false := by
    rw [sizes_ofRows]
    simp [ofRows]
  rw [table, faults_ofRows, even]
  cases Trace.fault? rows with
  | some failure => rfl
  | none =>
      simp only [Bool.false_eq_true, if_false]
      exact congrArg Except.ok (sideBySide_map rows)

end

end Columns

/-- A recorder that keeps its buffer by columns. -/
structure ColumnRecorder where
  path : Path
  runId : WideString
  threshold : Nat
  columns : Columns := {}
  groups : Trace := []
  rowsWritten : Nat := 0
  closed : Bool := false

namespace ColumnRecorder

/-- Whether there is something to write is told by the first column. -/
def flush (recorder : ColumnRecorder) (files : FileTree) (directory : List String) :
    Attempt (ColumnRecorder × FileTree) :=
  if recorder.columns.runId.isEmpty then { state := (recorder, files) }
  else
    match recorder.columns.table with
    | .error failure => { state := (recorder, files), failure := some failure }
    | .ok rows =>
      let written := { recorder with columns := {}, groups := recorder.groups ++ Trace.ofRows rows }
      if recorder.groups.isEmpty then
        match files.write directory recorder.path .unfinishedTrace with
        | .error error => { state := (recorder, files), failure := some (.file error) }
        | .ok opened => { state := (written, opened) }
      else { state := (written, files) }

def record (recorder : ColumnRecorder) (files : FileTree) (directory : List String) (action : WideString)
    (world : World) : Attempt (ColumnRecorder × FileTree) :=
  let added := { recorder with
    columns := recorder.columns.append (TraceRow.ofWorld recorder.runId action world)
    rowsWritten := recorder.rowsWritten + 1 }
  if added.columns.runId.length < added.threshold then { state := (added, files) }
  else added.flush files directory

def close (recorder : ColumnRecorder) (files : FileTree) (directory : List String) :
    Attempt (ColumnRecorder × FileTree) :=
  if recorder.closed then { state := (recorder, files) }
  else
    let attempt := { recorder with closed := true }.flush files directory
    match attempt.failure with
    | some _ => attempt
    | none =>
      let (flushed, files) := attempt.state
      let trace := if flushed.groups.isEmpty then [[]] else flushed.groups
      match files.write directory flushed.path (.trace trace) with
      | .error error => { state := (flushed, files), failure := some (.file error) }
      | .ok completed => { state := ({ flushed with groups := [] }, completed) }

end ColumnRecorder

/-- The same recorder with its buffer by columns. -/
def Recorder.byColumns (recorder : Recorder) : ColumnRecorder where
  path := recorder.path
  runId := recorder.runId
  threshold := recorder.threshold
  columns := .ofRows recorder.buffer.reverse
  groups := recorder.groups
  rowsWritten := recorder.rowsWritten
  closed := recorder.closed

/-- The same attempt of a recorder that keeps its buffer by columns. -/
def Attempt.byColumns (attempt : Attempt (Recorder × FileTree)) : Attempt (ColumnRecorder × FileTree) where
  state := (attempt.state.1.byColumns, attempt.state.2)
  failure := attempt.failure

section
variable (recorder : Recorder) (files : FileTree) (directory : List String)

theorem flush_byColumns :
    recorder.byColumns.flush files directory = (recorder.flush files directory).byColumns := by
  have empty : recorder.byColumns.columns.runId.isEmpty = recorder.buffer.isEmpty := by
    simp [Recorder.byColumns, Columns.ofRows]
  have table : recorder.byColumns.columns.table = _ := Columns.table_ofRows recorder.buffer.reverse
  rw [ColumnRecorder.flush, Recorder.flush, empty, table]
  cases recorder.buffer.isEmpty with
  | true => rfl
  | false =>
      cases fault : Trace.fault? recorder.buffer.reverse with
      | some failure =>
          simp only [fault]
          rfl
      | none =>
          simp only [Bool.false_eq_true, if_false, fault]
          show (if recorder.groups.isEmpty then _ else _) = _
          split
          · show (match files.write directory recorder.path .unfinishedTrace with
              | .error _ => _
              | .ok _ => _) = _
            cases files.write directory recorder.path .unfinishedTrace <;> rfl
          · rfl

theorem record_byColumns (action : WideString) (world : World) :
    recorder.byColumns.record files directory action world =
      (recorder.record files directory action world).byColumns := by
  have same : { recorder.byColumns with
      columns := recorder.byColumns.columns.append (TraceRow.ofWorld recorder.byColumns.runId action world)
      rowsWritten := recorder.byColumns.rowsWritten + 1 } = (recorder.add action world).byColumns := by
    simp only [Recorder.byColumns, Columns.append_ofRows, Recorder.add, List.reverse_cons]
  have size : (recorder.add action world).byColumns.columns.runId.length =
      (recorder.add action world).buffer.length := by
    simp [Recorder.byColumns, Columns.ofRows]
  have threshold : (recorder.add action world).byColumns.threshold = (recorder.add action world).threshold := rfl
  rw [ColumnRecorder.record, Recorder.record, same]
  simp only [size, threshold, Recorder.isFull, decide_eq_true_eq]
  split
  · rename_i room
    rw [if_neg (Nat.not_le.mpr room)]
    rfl
  · rename_i full
    rw [if_pos (Nat.not_lt.mp full)]
    exact flush_byColumns _ files directory

theorem close_byColumns :
    recorder.byColumns.close files directory = (recorder.close files directory).byColumns := by
  have flushed : ({ recorder.byColumns with closed := true }).flush files directory = _ :=
    flush_byColumns { recorder with closed := true } files directory
  rw [ColumnRecorder.close, Recorder.close]
  show (if recorder.closed then _ else _) = _
  split
  · rfl
  · rw [flushed]
    generalize ({ recorder with closed := true } : Recorder).flush files directory = attempt
    obtain ⟨⟨reached, opened⟩, _ | failure⟩ := attempt
    · let trace : Trace := if reached.groups.isEmpty then [[]] else reached.groups
      show (match opened.write directory reached.path (.trace trace) with
        | .error _ => _
        | .ok _ => _) = Attempt.byColumns (match opened.write directory reached.path (.trace trace) with
        | .error _ => _
        | .ok _ => _)
      cases opened.write directory reached.path (.trace trace) <;> rfl
    · rfl

end

/-- Does one thing after the other, up to the first that fails. -/
def Attempt.run {state event : Type} (step : state → event → Attempt state) :
    List event → state → Attempt state
  | [], reached => { state := reached }
  | event :: rest, reached =>
    match (step reached event).failure with
    | some _ => step reached event
    | none => run step rest (step reached event).state

theorem Attempt.run_append {state event : Type} {step : state → event → Attempt state} {first : List event}
    {start reached : state} (ran : run step first start = { state := reached }) (second : List event) :
    run step (first ++ second) start = run step second reached := by
  induction first generalizing start with
  | nil =>
      cases ran
      rfl
  | cons event rest inductionHypothesis =>
      rw [run] at ran
      rw [List.cons_append, run]
      cases failed : (step start event).failure with
      | some failure =>
          simp only [failed] at ran
          rw [ran] at failed
          cases failed
      | none =>
          simp only [failed] at ran
          exact inductionHypothesis ran

/-- What a recorder is told: the start of a run, or an action with the world that it leads to. -/
inductive RecorderCall where
  | start (world : World)
  | action (name : WideString) (world : World)

def RecorderCall.row (runId : WideString) : RecorderCall → TraceRow
  | .start world => TraceRow.ofWorld runId ("start" : String) world
  | .action name world => TraceRow.ofWorld runId name world

inductive RecorderEvent where
  | call (call : RecorderCall)
  | close

def Recorder.respond (directory : List String) (state : Recorder × FileTree) :
    RecorderEvent → Attempt (Recorder × FileTree)
  | .call (.start world) => state.1.recordStart state.2 directory world
  | .call (.action name world) => state.1.record state.2 directory name world
  | .close => state.1.close state.2 directory

def ColumnRecorder.respond (directory : List String) (state : ColumnRecorder × FileTree) :
    RecorderEvent → Attempt (ColumnRecorder × FileTree)
  | .call (.start world) => state.1.record state.2 directory ("start" : String) world
  | .call (.action name world) => state.1.record state.2 directory name world
  | .close => state.1.close state.2 directory

/-- Both recorders go through the same states, whatever they are told and whether they fail or not. -/
theorem run_byColumns (directory : List String) (events : List RecorderEvent) (recorder : Recorder)
    (files : FileTree) :
    Attempt.run (ColumnRecorder.respond directory) events (recorder.byColumns, files) =
      (Attempt.run (Recorder.respond directory) events (recorder, files)).byColumns := by
  have step (event : RecorderEvent) (recorder : Recorder) (files : FileTree) :
      ColumnRecorder.respond directory (recorder.byColumns, files) event =
        (Recorder.respond directory (recorder, files) event).byColumns := by
    cases event with
    | close => exact close_byColumns recorder files directory
    | call call =>
        cases call with
        | start world => exact record_byColumns recorder files directory ("start" : String) world
        | action name world => exact record_byColumns recorder files directory name world
  induction events generalizing recorder files with
  | nil => rfl
  | cons event rest inductionHypothesis =>
      rw [Attempt.run, Attempt.run, step]
      cases failed : (Recorder.respond directory (recorder, files) event).failure with
      | some failure => simp only [Attempt.byColumns, failed]
      | none =>
          simp only [Attempt.byColumns, failed]
          exact inductionHypothesis _ _

namespace Trace

/-- Rows stand in groups of one size, of which only the last may be smaller; without rows there is one empty
group. -/
structure Grouped (size : Nat) (trace : Trace) (rows : List TraceRow) : Prop where
  whole : Trace.rows trace = rows
  full : ∀ group ∈ trace.dropLast, group.length = size
  last : rows ≠ [] → ∃ group, trace.getLast? = some group ∧ 1 ≤ group.length ∧ group.length ≤ size
  empty : rows = [] → trace = [[]]

/-- What was written at once stands in groups of the size that a file can hold. -/
def Cuts (batches trace : Trace) : Prop :=
  ∃ cuts : List Trace, trace = cuts.flatten ∧ List.Forall₂ (Grouped groupLimit) cuts batches

namespace Grouped

variable {size : Nat} {trace : Trace} {rows group : List TraceRow}

theorem none (size : Nat) : Grouped size [[]] [] :=
  ⟨rfl, nofun, fun some => absurd rfl some, fun _ => rfl⟩

theorem one (filled : rows ≠ []) (small : rows.length ≤ size) : Grouped size [rows] rows :=
  ⟨List.append_nil rows, nofun, fun _ => ⟨rows, rfl, List.length_pos_iff.mpr filled, small⟩,
    fun empty => absurd empty filled⟩

theorem cons (full : group.length = size) (grouped : Grouped size trace rows) (filled : rows ≠ []) :
    Grouped size (group :: trace) (group ++ rows) := by
  have more : trace ≠ [] := by
    rintro rfl
    exact filled grouped.whole.symm
  obtain ⟨last, found, sizes⟩ := grouped.last filled
  refine ⟨congrArg (group ++ ·) grouped.whole, ?_, fun _ => ⟨last, ?_, sizes⟩, ?_⟩
  · rw [List.dropLast_cons_of_ne_nil more]
    exact List.forall_mem_cons.mpr ⟨full, grouped.full⟩
  · rw [List.getLast?_cons, found]
    rfl
  · intro empty
    exact absurd (List.append_eq_nil_iff.mp empty).2 filled

/-- Groups that are full, and rows behind them that are fewer. -/
theorem append {full : Trace} (sizes : ∀ group ∈ full, group.length = size) (filled : rows ≠ [])
    (small : rows.length ≤ size) : Grouped size (full ++ [rows]) (full.flatten ++ rows) := by
  induction full with
  | nil => exact one filled small
  | cons group rest inductionHypothesis =>
      obtain ⟨first, others⟩ := List.forall_mem_cons.mp sizes
      rw [List.flatten_cons, List.append_assoc]
      exact cons first (inductionHypothesis others) (List.append_ne_nil_of_right_ne_nil _ filled)

/-- Few rows stand in a single group. -/
theorem eq_of_small (grouped : Grouped size trace rows) (small : rows.length ≤ size) : trace = [rows] := by
  by_cases filled : rows = []
  · rw [grouped.empty filled, filled]
  · obtain ⟨last, found, positive, _⟩ := grouped.last filled
    obtain ⟨front, rfl⟩ := List.getLast?_eq_some_iff.mp found
    have whole := grouped.whole
    rw [Trace.rows, List.flatten_append, List.flatten_singleton] at whole
    cases front with
    | nil => rw [← whole]; rfl
    | cons group rest =>
        have full : group.length = size := by
          refine grouped.full group ?_
          rw [List.dropLast_concat]
          exact List.mem_cons_self
        rw [← whole, List.flatten_cons, List.length_append, List.length_append] at small
        omega

theorem length_le (grouped : Grouped size trace rows) (member : group ∈ trace) : group.length ≤ size := by
  by_cases filled : rows = []
  · rw [grouped.empty filled, List.mem_singleton] at member
    rw [member]
    exact Nat.zero_le size
  · obtain ⟨last, found, _, small⟩ := grouped.last filled
    obtain ⟨front, rfl⟩ := List.getLast?_eq_some_iff.mp found
    rcases List.mem_append.mp member with earlier | final
    · exact Nat.le_of_eq (grouped.full group (by rwa [List.dropLast_concat]))
    · rwa [List.mem_singleton.mp final]

end Grouped

theorem grouped_groupsOf {size fuel : Nat} {rows : List TraceRow} (positive : 0 < size)
    (enough : rows.length ≤ fuel) (filled : rows ≠ []) : Grouped size (groupsOf size fuel rows) rows := by
  induction fuel generalizing rows with
  | zero => exact absurd (List.length_eq_zero_iff.mp (Nat.le_zero.mp enough)) filled
  | succ fuel inductionHypothesis =>
      have shorter : (rows.drop size).length ≤ fuel := by
        rw [List.length_drop]
        omega
      have step : groupsOf size (fuel + 1) rows = rows.take size :: groupsOf size fuel (rows.drop size) := by
        cases rows with
        | nil => exact absurd rfl filled
        | cons row rest => rfl
      rw [step]
      by_cases rest : rows.drop size = []
      · have small : rows.length ≤ size := List.drop_eq_nil_iff.mp rest
        have done : groupsOf size fuel (rows.drop size) = [] := by
          rw [rest]
          cases fuel <;> rfl
        rw [done, List.take_of_length_le small]
        exact .one filled small
      · have full : (rows.take size).length = size := by
          rw [List.length_take, Nat.min_eq_left]
          by_contra short
          exact rest (List.drop_eq_nil_iff.mpr (Nat.le_of_not_le short))
        have grouped := Grouped.cons full (inductionHypothesis shorter rest) rest
        rwa [List.take_append_drop] at grouped

theorem cuts_flatMap {batches : Trace} (filled : ∀ batch ∈ batches, batch ≠ []) :
    Cuts batches (batches.flatMap ofRows) := by
  refine ⟨batches.map ofRows, List.flatMap_def .., List.forall₂_map_left_iff.mpr ?_⟩
  exact List.forall₂_same.mpr fun batch member =>
    grouped_groupsOf (by decide) (Nat.le_refl _) (filled batch member)

/-- Batches that a group can hold stand in one group each. -/
theorem Cuts.eq_of_small {batches trace : Trace} (cuts : Cuts batches trace)
    (small : ∀ batch ∈ batches, batch.length ≤ groupLimit) : trace = batches := by
  obtain ⟨cuts, rfl, grouped⟩ := cuts
  induction grouped with
  | nil => rfl
  | cons first rest inductionHypothesis =>
      obtain ⟨size, sizes⟩ := List.forall_mem_cons.mp small
      rw [List.flatten_cons, first.eq_of_small size, inductionHypothesis sizes]
      rfl

/-- Full batches and a last one that may be smaller, as they are written one after the other. -/
theorem batched_append {size : Nat} {front : Trace} {last : List TraceRow} (positive : 1 ≤ size)
    (sizes : ∀ batch ∈ front, batch.length = size) (filled : last ≠ []) (small : last.length ≤ size) :
    Grouped size (front ++ [last]) (front.flatten ++ last) ∧
      Cuts (front ++ [last]) (front.flatMap ofRows ++ ofRows last) ∧ front.flatMap ofRows ++ ofRows last ≠ [] := by
  have cuts : Cuts (front ++ [last]) ((front ++ [last]).flatMap ofRows) := by
    refine cuts_flatMap (List.forall_mem_append.mpr ⟨?_, List.forall_mem_singleton.mpr filled⟩)
    rintro batch member rfl
    exact absurd (sizes [] member) (Nat.ne_of_lt positive)
  rw [List.flatMap_append, List.flatMap_singleton] at cuts
  exact ⟨.append sizes filled small, cuts, List.append_ne_nil_of_right_ne_nil _ (ofRows_ne_nil filled)⟩

end Trace

namespace Ledger

/-- A recorder has recorded rows and has written a batch of them whenever there were as many as the threshold. -/
structure Records (ledger : Ledger) (recorder : Recorder) (files : FileTree) (rows : List TraceRow) : Prop
    extends ledger.Holds recorder files rows where
  threshold : recorder.threshold = ledger.threshold
  count : recorder.rowsWritten = rows.length
  full : ∃ batches : Trace, recorder.groups = batches.flatMap Trace.ofRows ∧
    ∀ batch ∈ batches, batch.length = ledger.threshold
  room : recorder.buffer.length < ledger.threshold

/-- The recorder before it is told anything. -/
def recorder (ledger : Ledger) : Recorder where
  path := ledger.path
  runId := ledger.runId
  threshold := ledger.threshold

/-- The same recorder with its columns. -/
def columnRecorder (ledger : Ledger) : ColumnRecorder where
  path := ledger.path
  runId := ledger.runId
  threshold := ledger.threshold

theorem create_recorder (ledger : Ledger) (positive : 1 ≤ ledger.threshold) :
    Recorder.create ledger.path ledger.runId ledger.threshold = .ok ledger.recorder := by
  rw [Recorder.create, if_neg (by omega), Int.toNat_natCast]
  rfl

theorem records_recorder (ledger : Ledger) (positive : 1 ≤ ledger.threshold) :
    ledger.Records ledger.recorder ledger.base [] where
  path := rfl
  runId := rfl
  threshold := rfl
  unclosed := rfl
  recorded := rfl
  count := rfl
  full := ⟨[], rfl, nofun⟩
  room := positive
  there := rfl

namespace Records

variable {ledger : Ledger} {recorder : Recorder} {files : FileTree} {rows : List TraceRow}

/-- A recorder that is told of an action has one row more, and writes a batch if that fills the buffer. -/
theorem record (records : ledger.Records recorder files rows) (action : WideString) (world : World)
    (storable : ∀ row ∈ rows ++ [TraceRow.ofWorld ledger.runId action world], row.isStorable = true) :
    ∃ next reached, recorder.record files ledger.directory action world = { state := (next, reached) } ∧
      ledger.Records next reached (rows ++ [TraceRow.ofWorld ledger.runId action world]) := by
  have added := records.toHolds.add action world
  obtain ⟨-, threshold, count, ⟨batches, written, sizes⟩, room⟩ := records
  have counted : (recorder.add action world).rowsWritten =
      (rows ++ [TraceRow.ofWorld ledger.runId action world]).length := by
    rw [List.length_append, ← count]
    rfl
  have waiting : (recorder.add action world).buffer.length = recorder.buffer.length + 1 := rfl
  have same : (recorder.add action world).threshold = ledger.threshold := threshold
  rw [Recorder.record]
  split
  · rename_i full
    rw [Recorder.isFull, decide_eq_true_eq, same, waiting] at full
    obtain ⟨reached, flushed, holds⟩ := added.flush storable
    refine ⟨_, reached, flushed, holds, threshold, counted, ?_, ?_⟩
    · refine ⟨batches ++ [(recorder.add action world).buffer.reverse], ?_, ?_⟩
      · rw [List.flatMap_append, ← written, List.flatMap_singleton]
        rfl
      · rw [List.forall_mem_append, List.forall_mem_singleton, List.length_reverse, waiting]
        exact ⟨sizes, by omega⟩
    · exact Nat.lt_of_le_of_lt (Nat.zero_le _) room
  · rename_i spare
    rw [Recorder.isFull, decide_eq_true_eq, same, waiting] at spare
    exact ⟨_, files, rfl, added, threshold, counted, ⟨batches, written, sizes⟩, Nat.lt_of_not_le spare⟩

theorem respond (records : ledger.Records recorder files rows) (call : RecorderCall)
    (storable : ∀ row ∈ rows ++ [call.row ledger.runId], row.isStorable = true) :
    ∃ next reached, Recorder.respond ledger.directory (recorder, files) (.call call) =
        { state := (next, reached) } ∧
      ledger.Records next reached (rows ++ [call.row ledger.runId]) := by
  cases call with
  | start world => exact records.record ("start" : String) world storable
  | action name world => exact records.record name world storable

/-- A recorder that is told of one thing after the other has recorded a row for each. -/
theorem run (records : ledger.Records recorder files rows) (calls : List RecorderCall)
    (storable : ∀ row ∈ rows ++ calls.map (RecorderCall.row ledger.runId), row.isStorable = true) :
    ∃ next reached, Attempt.run (Recorder.respond ledger.directory) (calls.map .call) (recorder, files) =
        { state := (next, reached) } ∧
      ledger.Records next reached (rows ++ calls.map (RecorderCall.row ledger.runId)) := by
  induction calls generalizing recorder files rows with
  | nil =>
      refine ⟨recorder, files, rfl, ?_⟩
      rw [List.map_nil, List.append_nil]
      exact records
  | cons call rest inductionHypothesis =>
      have split : rows ++ (call :: rest).map (RecorderCall.row ledger.runId) =
          rows ++ [call.row ledger.runId] ++ rest.map (RecorderCall.row ledger.runId) := by simp
      rw [split] at storable ⊢
      obtain ⟨next, reached, heard, records⟩ :=
        records.respond call fun row member => storable row (List.mem_append_left _ member)
      rw [List.map_cons, Attempt.run, heard]
      exact inductionHypothesis records storable

/-- The rows are written in batches of the threshold, of which only the last may be smaller, and every batch is cut
into groups. -/
theorem batched (records : ledger.Records recorder files rows) (positive : 1 ≤ ledger.threshold) :
    ∃ batches, Trace.Grouped ledger.threshold batches rows ∧ Trace.Cuts batches recorder.trace := by
  obtain ⟨⟨-, -, -, recorded, -⟩, -, -, ⟨batches, written, sizes⟩, room⟩ := records
  have earlier : recorder.groups.flatten = batches.flatten := by
    rw [written, List.flatMap_def, List.flatten_flatten, List.map_map]
    exact congrArg List.flatten (List.map_id'' Trace.rows_ofRows batches)
  rw [Recorder.trace, Recorder.flushed, written]
  by_cases waiting : recorder.buffer = []
  · rw [waiting, List.reverse_nil, List.append_nil, earlier] at recorded
    rw [waiting, List.reverse_nil, show Trace.ofRows [] = [] from rfl, List.append_nil, ← recorded]
    rcases List.eq_nil_or_concat batches with rfl | ⟨front, last, rfl⟩
    · exact ⟨[[]], .none _, [[[]]], rfl, .cons (.none _) .nil⟩
    · rw [List.concat_eq_append] at sizes ⊢
      obtain ⟨full, size⟩ := List.forall_mem_append.mp sizes
      have size := List.forall_mem_singleton.mp size
      have filled : last ≠ [] := List.length_pos_iff.mp (by omega)
      obtain ⟨grouped, cuts, some⟩ := Trace.batched_append positive full filled (Nat.le_of_eq size)
      rw [List.flatMap_append, List.flatMap_singleton, if_neg (by simpa using some), List.flatten_append,
        List.flatten_singleton]
      exact ⟨_, grouped, cuts⟩
  · have filled : recorder.buffer.reverse ≠ [] := List.reverse_ne_nil_iff.mpr waiting
    have small : recorder.buffer.reverse.length ≤ ledger.threshold := by
      rw [List.length_reverse]
      exact Nat.le_of_lt room
    obtain ⟨grouped, cuts, some⟩ := Trace.batched_append positive sizes filled small
    rw [if_neg (by simpa using some), ← recorded, earlier]
    exact ⟨_, grouped, cuts⟩

/-- However often a recorder is closed, the first time counts. -/
theorem run_close (records : ledger.Records recorder files rows)
    (storable : ∀ row ∈ rows, row.isStorable = true) :
    ∃ reached, ledger.base.write ledger.directory ledger.path (.trace recorder.trace) = .ok reached ∧
      ∀ times, 1 ≤ times →
        Attempt.run (Recorder.respond ledger.directory) (List.replicate times .close) (recorder, files) =
          { state := ({ recorder with buffer := [], groups := [], closed := true }, reached) } := by
  obtain ⟨reached, written, closed⟩ := records.close_eq storable
  refine ⟨reached, written, fun times positive => ?_⟩
  have again (closed : Recorder) (done : closed.closed = true) (times : Nat) :
      Attempt.run (Recorder.respond ledger.directory) (List.replicate times .close) (closed, reached) =
        { state := (closed, reached) } := by
    have idle : Recorder.respond ledger.directory (closed, reached) .close = { state := (closed, reached) } := by
      rw [Recorder.respond, Recorder.close, if_pos done]
    induction times with
    | zero => rfl
    | succ times inductionHypothesis =>
        rw [List.replicate_succ, Attempt.run, idle]
        exact inductionHypothesis
  cases times with
  | zero => omega
  | succ times =>
      have first : Recorder.respond ledger.directory (recorder, files) .close = _ := closed
      rw [List.replicate_succ, Attempt.run, first]
      exact again _ rfl times

end Records

end Ledger

namespace Recorder

/-- Flushing loses, repeats and reorders nothing. A recorder is told of a run in any mix of starts and actions and is
then closed, once or more often: its file holds all rows in the order of recording, in batches that are full apart from
the last, and closing it again changes nothing. A batch is one group of the file unless it is larger than a group can
be. At every moment the columns of its buffer are of one length, which is below the threshold after each row. -/
theorem flushing_keeps_every_row (ledger : Ledger) (positive : 1 ≤ ledger.threshold) (calls : List RecorderCall)
    (storable : ∀ call ∈ calls, (call.row ledger.runId).isStorable = true) :
    Recorder.create ledger.path ledger.runId ledger.threshold = .ok ledger.recorder ∧
    (∃ batches trace closed files, Trace.rows trace = calls.map (RecorderCall.row ledger.runId) ∧
      Trace.Grouped ledger.threshold batches (calls.map (RecorderCall.row ledger.runId)) ∧
      Trace.Cuts batches trace ∧ (ledger.threshold ≤ Trace.groupLimit → trace = batches) ∧
      ledger.base.write ledger.directory ledger.path (.trace trace) = .ok files ∧
      files.loadTrace ledger.directory ledger.path = .ok trace ∧
      closed.rowsWritten = calls.length ∧
      ∀ times, 1 ≤ times → Attempt.run (Recorder.respond ledger.directory)
        (calls.map .call ++ List.replicate times .close) (ledger.recorder, ledger.base) =
          { state := (closed, files) }) ∧
    (∀ events,
      Attempt.run (ColumnRecorder.respond ledger.directory) events (ledger.columnRecorder, ledger.base) =
        (Attempt.run (Recorder.respond ledger.directory) events (ledger.recorder, ledger.base)).byColumns) ∧
    (∀ events, ∃ length, (Attempt.run (ColumnRecorder.respond ledger.directory) events
      (ledger.columnRecorder, ledger.base)).state.1.columns.sizes = List.replicate 8 length) ∧
    ∀ earlier, earlier <+: calls → ∀ length ∈ (Attempt.run (ColumnRecorder.respond ledger.directory)
      (earlier.map .call) (ledger.columnRecorder, ledger.base)).state.1.columns.sizes,
        length < ledger.threshold := by
  have fresh := ledger.records_recorder positive
  have rows : ∀ row ∈ [] ++ calls.map (RecorderCall.row ledger.runId), row.isStorable = true := by
    rw [List.nil_append]
    exact List.forall_mem_map.mpr storable
  have columns (events : List RecorderEvent) :=
    run_byColumns ledger.directory events ledger.recorder ledger.base
  have sizes (events : List RecorderEvent) : (Attempt.run (ColumnRecorder.respond ledger.directory) events
      (ledger.columnRecorder, ledger.base)).state.1.columns.sizes = List.replicate 8
        (Attempt.run (Recorder.respond ledger.directory) events
          (ledger.recorder, ledger.base)).state.1.buffer.length := by
    show (Attempt.run (ColumnRecorder.respond ledger.directory) events
      (ledger.recorder.byColumns, ledger.base)).state.1.columns.sizes = _
    rw [columns]
    show (Columns.ofRows (List.reverse _)).sizes = _
    rw [Columns.sizes_ofRows, List.length_reverse]
  refine ⟨ledger.create_recorder positive, ?_, columns, fun events => ⟨_, sizes events⟩, ?_⟩
  · obtain ⟨reached, there, heard, records⟩ := fresh.run calls rows
    obtain ⟨files, written, closes⟩ := records.run_close rows
    obtain ⟨batches, grouped, cuts⟩ := records.batched positive
    refine ⟨batches, reached.trace, { reached with buffer := [], groups := [], closed := true }, files,
      reached.rows_trace.trans records.recorded, grouped, cuts, ?_, written, ?_, ?_, ?_⟩
    · intro small
      exact cuts.eq_of_small fun batch member => Nat.le_trans (grouped.length_le member) small
    · exact FileTree.loadTrace_eq_ok.mpr (FileTree.read_of_write written)
    · exact records.count.trans (List.length_map ..)
    · intro times often
      rw [Attempt.run_append heard]
      exact closes times often
  · intro earlier before length member
    have some : ∀ row ∈ [] ++ earlier.map (RecorderCall.row ledger.runId), row.isStorable = true := by
      intro row member
      exact rows row ((before.map _).subset member)
    obtain ⟨reached, there, heard, records⟩ := fresh.run earlier some
    rw [sizes, heard] at member
    rw [List.eq_of_mem_replicate member]
    exact records.room

/-- A recorder of a trace in an empty directory, which writes two rows at a time. -/
def pairs : Ledger where
  path := ⟨.none, ["trace.parquet"]⟩
  runId := "run"
  threshold := 2
  directory := []
  base := {}
  opened := ⟨[(["trace.parquet"], .file .unfinishedTrace)]⟩
  writable := rfl

/-- A robot on a single cell with a bag. -/
def onTheSpot (bag : Int) : World where
  width := 1
  height := 1
  robot := ⟨⟨0, 0⟩, .east, bag⟩

theorem flushing_keeps_every_row_pairs :
    ∃ trace closed files, Trace.rows trace = [⟨"run", 0, "start", 0, 0, "EAST", 0, 0⟩,
        ⟨"run", 0, "turnleft", 0, 0, "EAST", -3, 0⟩, ⟨"run", 0, "start", 0, 0, "EAST", 7, 0⟩] ∧
      FileTree.loadTrace files [] ⟨.none, ["trace.parquet"]⟩ = .ok trace ∧
      Attempt.run (Recorder.respond []) [.call (.start (onTheSpot 0)), .call (.action "turnleft" (onTheSpot (-3))),
        .call (.start (onTheSpot 7)), .close, .close] (pairs.recorder, {}) = { state := (closed, files) } := by
  obtain ⟨_, ⟨_, trace, closed, files, rows, _, _, _, _, loaded, _, closes⟩, _⟩ :=
    flushing_keeps_every_row pairs (by decide)
      [.start (onTheSpot 0), .action "turnleft" (onTheSpot (-3)), .start (onTheSpot 7)] (by decide)
  exact ⟨trace, closed, files, rows, loaded, closes 2 (by decide)⟩

/-- A bag that is overdrawn by more than a cell can hold is not above the numbers of 64 bits, and still its row is not
written: closing fails and leaves no trace. -/
theorem overdrawn_bag_is_not_written :
    (TraceRow.ofWorld "run" "start" (onTheSpot (-9223372036854775809))).Small ∧
      ∀ times, 1 ≤ times →
        let ended := Attempt.run (Recorder.respond []) ([.call (.start (onTheSpot (-9223372036854775809)))] ++
          List.replicate times .close) (pairs.recorder, {})
        ended.failure = some (.overflow .traceCell) ∧
          ∀ trace, ended.state.2.loadTrace [] ⟨.none, ["trace.parquet"]⟩ ≠ .ok trace := by
  refine ⟨by decide, fun times often => ?_⟩
  obtain ⟨more, rfl⟩ := Nat.exists_eq_add_of_le' often
  rw [List.replicate_succ]
  exact ⟨rfl, nofun⟩

end Recorder

end GridRobot
