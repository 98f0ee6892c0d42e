import GridRobot.Proofs.Chronicle
import GridRobot.Proofs.Files
import GridRobot.Proofs.Staging

namespace GridRobot

namespace Trace

/-- Rows can be written exactly if each of them can be stored. -/
theorem fault?_eq_none {rows : List TraceRow} :
    fault? rows = none ↔ ∀ row ∈ rows, row.isStorable = true := by
  have text (value : WideString) : textFault? value = none ↔ value.isEncodable = true := by
    rw [textFault?]
    split <;> simp_all
  have number (value : Int) : numberFault? value = none ↔ TraceRow.fitsWord value = true := by
    rw [numberFault?]
    split <;> simp_all
  simp only [fault?, columnFaults, List.findSome?_eq_none_iff, List.forall_mem_cons, List.not_mem_nil,
    false_imp_iff, implies_true, and_true, text, number]
  simp only [TraceRow.isStorable, Bool.and_eq_true]
  constructor
  · rintro ⟨runId, step, action, x, y, bag, board⟩ row member
    exact ⟨⟨⟨⟨⟨⟨runId row member, action row member⟩, step row member⟩, x row member⟩, y row member⟩,
      bag row member⟩, board row member⟩
  · intro all
    exact ⟨fun row member => (all row member).1.1.1.1.1.1, fun row member => (all row member).1.1.1.1.2,
      fun row member => (all row member).1.1.1.1.1.2, fun row member => (all row member).1.1.1.2,
      fun row member => (all row member).1.1.2, fun row member => (all row member).1.2,
      fun row member => (all row member).2⟩

/-- Rows that cannot be written have a text that cannot be encoded, or a number that does not fit. -/
theorem fault?_cases {rows : List TraceRow} {failure : Failure} (found : fault? rows = some failure) :
    failure = .unencodable ∨ failure = .overflow .traceCell := by
  have text {value : WideString} (found : textFault? value = some failure) : failure = .unencodable := by
    rw [textFault?] at found
    split at found <;> cases found
    rfl
  have number {value : Int} (found : numberFault? value = some failure) : failure = .overflow .traceCell := by
    rw [numberFault?] at found
    split at found <;> cases found
    rfl
  obtain ⟨cell, column, found⟩ := List.exists_of_findSome?_eq_some found
  obtain ⟨row, _, found⟩ := List.exists_of_findSome?_eq_some found
  simp only [columnFaults, List.mem_cons, List.not_mem_nil, or_false] at column
  rcases column with rfl | rfl | rfl | rfl | rfl | rfl | rfl
  · exact Or.inl (text found)
  · exact Or.inr (number found)
  · exact Or.inl (text found)
  all_goals exact Or.inr (number found)

theorem flatten_groupsOf {size fuel : Nat} {rows : List TraceRow} (positive : 0 < size)
    (enough : rows.length ≤ fuel) : (groupsOf size fuel rows).flatten = rows := by
  induction fuel generalizing rows with
  | zero =>
      rw [List.length_eq_zero_iff.mp (Nat.le_zero.mp enough)]
      rfl
  | succ fuel inductionHypothesis =>
      cases rows with
      | nil => rfl
      | cons row rest =>
          have shorter : ((row :: rest).drop size).length ≤ fuel := by
            rw [List.length_drop]
            rw [List.length_cons] at enough ⊢
            omega
          rw [groupsOf, List.flatten_cons, inductionHypothesis shorter, List.take_append_drop]
          exact List.cons_ne_nil _ _

/-- Nothing is lost in groups. -/
theorem rows_ofRows (rows : List TraceRow) : (ofRows rows).flatten = rows :=
  flatten_groupsOf (by decide) (Nat.le_refl _)

theorem ofRows_ne_nil {rows : List TraceRow} (filled : rows ≠ []) : ofRows rows ≠ [] := by
  intro none
  have same := rows_ofRows rows
  rw [none] at same
  exact filled same.symm

end Trace

/-- A recorder that has written its buffer. -/
def Recorder.flushed (recorder : Recorder) : Recorder :=
  { recorder with buffer := [], groups := recorder.groups ++ Trace.ofRows recorder.buffer.reverse }

/-- The groups that a recorder has written when it is closed. -/
def Recorder.trace (recorder : Recorder) : Trace :=
  if recorder.flushed.groups.isEmpty then [[]] else recorder.flushed.groups

theorem Recorder.rows_flushed (recorder : Recorder) :
    recorder.flushed.groups.flatten = recorder.groups.flatten ++ recorder.buffer.reverse := by
  rw [flushed, List.flatten_append, Trace.rows_ofRows]

theorem Recorder.rows_trace (recorder : Recorder) :
    Trace.rows recorder.trace = recorder.groups.flatten ++ recorder.buffer.reverse := by
  rw [← rows_flushed, trace, Trace.rows]
  split
  · rename_i empty
    rw [List.isEmpty_iff.mp empty]
    rfl
  · rfl

/-- What a recorder is set up with, and the tree around its file before and after the file is opened. -/
structure Ledger where
  path : Path
  runId : WideString
  threshold : Nat
  directory : List String
  base : FileTree
  opened : FileTree
  writable : base.write directory path .unfinishedTrace = .ok opened

namespace Ledger

/-- A recorder has rows in its groups and its buffer, in order, and the file is opened with the first group. -/
structure Holds (ledger : Ledger) (recorder : Recorder) (files : FileTree) (rows : List TraceRow) : Prop where
  path : recorder.path = ledger.path
  runId : recorder.runId = ledger.runId
  unclosed : recorder.closed = false
  recorded : recorder.groups.flatten ++ recorder.buffer.reverse = rows
  there : files = if recorder.groups.isEmpty then ledger.base else ledger.opened

variable {ledger : Ledger} {recorder : Recorder} {files : FileTree} {rows : List TraceRow}

/-- Rows that can be stored are written all at once. -/
theorem flush_eq (path : recorder.path = ledger.path) (storable : ∀ row ∈ recorder.buffer, row.isStorable = true)
    (there : files = if recorder.groups.isEmpty then ledger.base else ledger.opened) :
    recorder.flush files ledger.directory =
      { state := (recorder.flushed,
          if recorder.flushed.groups.isEmpty then ledger.base else ledger.opened) } := by
  by_cases empty : recorder.buffer = []
  · have same : recorder.flushed = recorder := by
      rw [Recorder.flushed, empty, List.reverse_nil, show Trace.ofRows [] = [] from rfl, List.append_nil, ← empty]
    rw [same, ← there, Recorder.flush, empty]
    rfl
  · have sound : Trace.fault? recorder.buffer.reverse = none :=
      Trace.fault?_eq_none.mpr fun row member => storable row (List.mem_reverse.mp member)
    have written : recorder.flushed.groups.isEmpty = false := by
      rw [List.isEmpty_eq_false_iff, Recorder.flushed]
      exact List.append_ne_nil_of_right_ne_nil _ (Trace.ofRows_ne_nil (List.reverse_ne_nil_iff.mpr empty))
    rw [written, Recorder.flush, if_neg (by simpa using empty)]
    simp only [sound]
    cases first : recorder.groups.isEmpty with
    | true =>
        have opened : files.write ledger.directory recorder.path .unfinishedTrace = .ok ledger.opened := by
          rw [there, first, if_pos rfl, path]
          exact ledger.writable
        rw [if_pos rfl, opened]
        rfl
    | false =>
        rw [if_neg Bool.false_ne_true, there, first]
        rfl

namespace Holds

/-- A recorder that adds a row holds one row more. -/
theorem add (holds : ledger.Holds recorder files rows) (action : WideString) (world : World) :
    ledger.Holds (recorder.add action world) files (rows ++ [TraceRow.ofWorld ledger.runId action world]) := by
  refine ⟨holds.path, holds.runId, holds.unclosed, ?_, holds.there⟩
  rw [Recorder.add, List.reverse_cons, ← List.append_assoc, holds.recorded, holds.runId]

theorem flush (holds : ledger.Holds recorder files rows) (storable : ∀ row ∈ rows, row.isStorable = true) :
    ∃ reached, recorder.flush files ledger.directory = { state := (recorder.flushed, reached) } ∧
      ledger.Holds recorder.flushed reached rows := by
  refine ⟨_, flush_eq holds.path ?_ holds.there, holds.path, holds.runId, holds.unclosed, ?_, rfl⟩
  · intro row member
    apply storable
    rw [← holds.recorded]
    exact List.mem_append_right _ (List.mem_reverse.mpr member)
  · rw [← holds.recorded, ← recorder.rows_flushed]
    exact List.append_nil _

/-- A recorder that is told of an action has one row more. -/
theorem record (holds : ledger.Holds recorder files rows) (action : WideString) (world : World)
    (storable : ∀ row ∈ rows ++ [TraceRow.ofWorld ledger.runId action world], row.isStorable = true) :
    ∃ next reached, recorder.record files ledger.directory action world = { state := (next, reached) } ∧
      ledger.Holds next reached (rows ++ [TraceRow.ofWorld ledger.runId action world]) := by
  have added := holds.add action world
  rw [Recorder.record]
  split
  · obtain ⟨reached, flushed, holds⟩ := added.flush storable
    exact ⟨_, reached, flushed, holds⟩
  · exact ⟨_, files, rfl, added⟩

/-- A recorder that is closed has written all its groups and keeps nothing back. -/
theorem close_eq (holds : ledger.Holds recorder files rows) (storable : ∀ row ∈ rows, row.isStorable = true) :
    ∃ reached, ledger.base.write ledger.directory ledger.path (.trace recorder.trace) = .ok reached ∧
      recorder.close files ledger.directory =
        { state := ({ recorder with buffer := [], groups := [], closed := true }, reached) } := by
  obtain ⟨path, _, unclosed, recorded, there⟩ := holds
  obtain ⟨reached, based⟩ := FileTree.write_of_write ledger.writable (.trace recorder.trace)
  -- The file may hold an unfinished trace by now, or not be there; what is written last is the same.
  have again : ledger.opened.write ledger.directory ledger.path (.trace recorder.trace) = .ok reached := by
    rw [FileTree.write_write ledger.writable, based]
  have last : (if recorder.flushed.groups.isEmpty then ledger.base else ledger.opened).write ledger.directory
      ledger.path (.trace recorder.trace) = .ok reached := by
    split
    · exact based
    · exact again
  have kept : ∀ row ∈ recorder.buffer, row.isStorable = true := by
    intro row member
    apply storable
    rw [← recorded]
    exact List.mem_append_right _ (List.mem_reverse.mpr member)
  have flushed := @flush_eq ledger { recorder with closed := true } files path kept there
  have closed : ({ recorder with closed := true } : Recorder).flushed = { recorder.flushed with closed := true } := rfl
  rw [closed] at flushed
  have target : recorder.flushed.path = ledger.path := path
  rw [Recorder.trace, ← target] at last
  refine ⟨reached, based, ?_⟩
  rw [Recorder.close, unclosed, if_neg Bool.false_ne_true]
  simp only [flushed, last]
  rfl

/-- A recorder that is closed leaves the trace of its rows in its file. -/
theorem close (holds : ledger.Holds recorder files rows) (storable : ∀ row ∈ rows, row.isStorable = true) :
    ∃ last reached trace, recorder.close files ledger.directory = { state := (last, reached) } ∧
      Trace.rows trace = rows ∧
      ledger.base.write ledger.directory ledger.path (.trace trace) = .ok reached := by
  obtain ⟨reached, written, closed⟩ := holds.close_eq storable
  exact ⟨_, reached, recorder.trace, closed, recorder.rows_trace.trans holds.recorded, written⟩

end Holds

end Ledger

/-- Two workspaces differ at most in what was shown. -/
structure Workspace.Keeps (workspace reached : Workspace) : Prop where
  files : reached.files = workspace.files
  directory : reached.directory = workspace.directory
  figures : reached.figures = workspace.figures
  longestPause : reached.longestPause = workspace.longestPause

namespace Workspace.Keeps

variable {workspace reached last : Workspace}

theorem refl (workspace : Workspace) : workspace.Keeps workspace :=
  ⟨rfl, rfl, rfl, rfl⟩

theorem trans (first : workspace.Keeps reached) (second : reached.Keeps last) : workspace.Keeps last :=
  ⟨second.files.trans first.files, second.directory.trans first.directory, second.figures.trans first.figures,
    second.longestPause.trans first.longestPause⟩

end Workspace.Keeps

/-- A pause of so many milliseconds can be made: it can be counted. -/
structure Workspace.Allows (workspace : Workspace) (delay : Nat) : Prop where
  finite : isBeyondFloats delay = false
  bounded : ∀ longest, workspace.longestPause = some longest → delay ≤ longest

theorem Workspace.Allows.of_keeps {workspace reached : Workspace} {delay : Nat} (allows : workspace.Allows delay)
    (keeps : workspace.Keeps reached) : reached.Allows delay :=
  ⟨allows.finite, fun longest same => allows.bounded longest (keeps.longestPause.symm.trans same)⟩

/-- The pause before a frame, if there shall be one. -/
def Showing.rest (delay : Nat) : List Showing :=
  if delay = 0 then [] else [.pause delay]

namespace Display

variable {display : Display} {workspace : Workspace} {left : Nat}

/-- A display whose pause can be made makes it. -/
theorem rest_of_allows (allows : workspace.Allows display.delay) :
    display.rest workspace = .ok { workspace with shown := Showing.rest display.delay ++ workspace.shown } := by
  have short : workspace.longestPause.any (fun longest => longest < display.delay) = false := by
    cases bound : workspace.longestPause with
    | none => rfl
    | some longest => exact decide_eq_false (Nat.not_lt.mpr (allows.bounded longest bound))
  rw [rest, Showing.rest]
  split
  · rfl
  · rw [Workspace.sleep, allows.finite, short]
    rfl

/-- A display whose pause can be made draws a frame. -/
theorem draw_of_allows (allows : workspace.Allows display.delay) (world : World) :
    display.draw world workspace =
      { state := ({ display with frames := display.frames + 1 },
          { workspace with
            shown := .text (display.frame world) :: (Showing.rest display.delay ++ workspace.shown) }) } := by
  rw [draw, rest_of_allows allows]
  rfl

/-- Without the nesting for a frame, a display pauses and prints its heading at most. -/
theorem interrupt_of_allows (allows : workspace.Allows display.delay) (left : Nat) :
    display.interrupt left workspace =
      { state := (display, if left < Nesting.clearCost then workspace else
          { workspace with shown := .text display.heading :: (Showing.rest display.delay ++ workspace.shown) })
        failure := some .nestingTooDeep } := by
  rw [interrupt]
  split
  · rfl
  · rw [rest_of_allows allows]
    rfl

end Display

/-- A failure that a run does not take for its own when a listener raises it. -/
def Failure.Foreign (failure : Failure) : Prop :=
  ∀ number, BreakOff.ofFailure number failure = .failure failure

/-- A display fails at its pause only. -/
theorem Display.foreign_of_rest {display : Display} {workspace : Workspace} {failure : Failure}
    (failed : display.rest workspace = .error failure) : failure.Foreign := by
  rw [rest] at failed
  split at failed
  · cases failed
  · obtain ⟨_, _, rfl⟩ := mapError_eq_error.mp failed
    exact fun _ => rfl

theorem Display.foreign_of_draw {display : Display} {world : World} {workspace : Workspace} {failure : Failure}
    (failed : (display.draw world workspace).failure = some failure) : failure.Foreign := by
  rw [draw] at failed
  split at failed
  · rename_i raised
    cases failed
    exact foreign_of_rest raised
  · cases failed

theorem Recorder.foreign_of_flush {recorder : Recorder} {files : FileTree} {directory : List String}
    {failure : Failure} (failed : (recorder.flush files directory).failure = some failure) : failure.Foreign := by
  rw [flush] at failed
  split at failed
  · cases failed
  · simp only at failed
    split at failed
    · rename_i fault
      cases failed
      rcases Trace.fault?_cases fault with rfl | rfl <;> exact fun _ => rfl
    · split at failed
      · split at failed
        · cases failed
          exact fun _ => rfl
        · cases failed
      · cases failed

theorem Recorder.foreign_of_record {recorder : Recorder} {files : FileTree} {directory : List String}
    {action : WideString} {world : World} {failure : Failure}
    (failed : (recorder.record files directory action world).failure = some failure) : failure.Foreign := by
  rw [record] at failed
  split at failed
  · exact foreign_of_flush failed
  · cases failed

namespace Observer

variable {left : Nat} {action : Action} {world : World} {workspace : Workspace} {failure : Failure}

/-- An observer fails for want of nesting, or with something that is not the run's. -/
theorem failure_of_notify {observer : Observer}
    (failed : (Listener.notify left observer action world workspace).failure = some failure) :
    failure.Foreign ∨ failure = .nestingTooDeep ∧ left < Nesting.flushCost := by
  cases observer with
  | display screen =>
      simp only [Listener.notify] at failed
      split at failed
      · rename_i crowded
        have tight : left < Nesting.flushCost := Nat.lt_trans crowded (by decide)
        rw [Display.interrupt] at failed
        split at failed
        · cases failed
          exact Or.inr ⟨rfl, tight⟩
        · split at failed
          · rename_i raised
            cases failed
            exact Or.inl (Display.foreign_of_rest raised)
          · cases failed
            exact Or.inr ⟨rfl, tight⟩
      · exact Or.inl (Display.foreign_of_draw failed)
  | recorder book =>
      simp only [Listener.notify] at failed
      split at failed
      · exact Or.inl (Recorder.foreign_of_record failed)
      · rename_i crowded
        cases failed
        refine Or.inr ⟨rfl, ?_⟩
        by_contra wide
        have room : Nesting.rowCost ≤ left := Nat.le_trans (by decide) (Nat.not_lt.mp wide)
        exact crowded (by simp [Recorder.hasRoom, room, Nat.not_lt.mp wide])

theorem failure_of_notifyAll {observers : List Observer}
    (failed : (Listener.notifyAll left action world observers workspace).failure = some failure) :
    failure.Foreign ∨ failure = .nestingTooDeep ∧ left < Nesting.flushCost := by
  induction observers generalizing workspace with
  | nil => cases failed
  | cons observer rest inductionHypothesis =>
      cases raised : (Listener.notify left observer action world workspace).failure with
      | some cause =>
          simp only [Listener.notifyAll, raised] at failed
          cases failed
          exact failure_of_notify raised
      | none =>
          simp only [Listener.notifyAll, raised] at failed
          exact inductionHypothesis failed

end Observer

/-- How a row stands behind the others when the listeners have been told of its action: it is noted, or one of them
has too little nesting left, and then it may be noted or missing. -/
inductive Noting (left : Nat) (row : TraceRow) (rows : List TraceRow) : Option Failure → List TraceRow → Prop where
  | noted : Noting left row rows none (rows ++ [row])
  | late (tight : left < Nesting.flushCost) : Noting left row rows (some .nestingTooDeep) (rows ++ [row])
  | missed (tight : left < Nesting.frameCost) : Noting left row rows (some .nestingTooDeep) rows

namespace Ledger

variable {ledger : Ledger} {recorder : Recorder} {rows : List TraceRow} {observers : List Observer}
  {workspace : Workspace}

/-- A recorder that is told of an action notes its row as far as there is nesting for it. -/
theorem Holds.notify (holds : ledger.Holds recorder workspace.files rows)
    (place : workspace.directory = ledger.directory) (left : Nat) (action : Action) (world : World)
    (storable : ∀ row ∈ rows ++ [TraceRow.ofWorld ledger.runId action.name world], row.isStorable = true) :
    ∃ next files failure noted, Listener.notify left recorder action world workspace =
        { state := (next, { workspace with files := files }), failure } ∧
      Noting left (TraceRow.ofWorld ledger.runId action.name world) rows failure noted ∧
      ledger.Holds next files noted := by
  by_cases room : recorder.hasRoom left action world = true
  · obtain ⟨next, files, recorded, holds⟩ := holds.record action.name world storable
    refine ⟨next, files, none, _, ?_, .noted, holds⟩
    simp only [Listener.notify, room, if_true, place, recorded]
  · have told : Listener.notify left recorder action world workspace =
        recorder.interrupt left action world workspace := by
      simp only [Listener.notify, room, Bool.false_eq_true, if_false]
    rw [told, Recorder.interrupt]
    by_cases crowded : left < Nesting.rowCost
    · rw [if_pos crowded]
      refine ⟨recorder, workspace.files, _, rows, rfl, .missed ?_, holds⟩
      exact Nat.lt_of_lt_of_le crowded (by decide)
    · rw [if_neg crowded]
      refine ⟨_, workspace.files, _, _, rfl, .late ?_, holds.add action.name world⟩
      rw [Recorder.hasRoom, Bool.and_eq_true, decide_eq_true_eq] at room
      by_contra wide
      exact room ⟨Nat.not_lt.mp crowded, decide_eq_true fun _ => Nat.not_lt.mp wide⟩

/-- The rows of actions and the worlds after them. -/
def rowsOf (ledger : Ledger) (history : List (Action × World)) : List TraceRow :=
  history.map fun entry => TraceRow.ofWorld ledger.runId entry.1.name entry.2

/-- A run is watched by a display whose pauses can be made, if there is one, and by a recorder that holds rows. -/
structure Watches (ledger : Ledger) (observers : List Observer) (workspace : Workspace)
    (rows : List TraceRow) : Prop where
  directory : workspace.directory = ledger.directory
  watching : ∃ (screen : Option Display) (recorder : Recorder),
    observers = screen.toList.map .display ++ [.recorder recorder] ∧
    (∀ display, screen = some display → workspace.Allows display.delay) ∧
    ledger.Holds recorder workspace.files rows

theorem notifyAll_recorder (left : Nat) (book : Recorder) (action : Action) (world : World) (workspace : Workspace) :
    Listener.notifyAll left action world [Observer.recorder book] workspace =
      { state := ([.recorder (Listener.notify left book action world workspace).state.1],
          (Listener.notify left book action world workspace).state.2)
        failure := (Listener.notify left book action world workspace).failure } := by
  simp only [Listener.notifyAll, Listener.notify]
  split <;> simp_all

namespace Watches

/-- An action that the observers are told of is one row more, as far as there is nesting for it. -/
theorem notifyAll (watches : ledger.Watches observers workspace rows) (left : Nat) (action : Action) (world : World)
    (storable : ∀ row ∈ rows ++ [TraceRow.ofWorld ledger.runId action.name world], row.isStorable = true) :
    ∃ told reached failure noted, Listener.notifyAll left action world observers workspace =
        { state := (told, reached), failure } ∧
      Noting left (TraceRow.ofWorld ledger.runId action.name world) rows failure noted ∧
      ledger.Watches told reached noted ∧ reached.figures = workspace.figures := by
  obtain ⟨place, screen, recorder, rfl, allows, holds⟩ := watches
  cases screen with
  | none =>
      obtain ⟨next, files, failure, noted, told, noting, holds⟩ := holds.notify place left action world storable
      refine ⟨_, _, _, noted, notifyAll_recorder left recorder action world workspace, ?_⟩
      rw [told]
      exact ⟨noting, ⟨place, none, next, rfl, nofun, holds⟩, rfl⟩
  | some display =>
      have allows := allows display rfl
      by_cases crowded : left < Nesting.frameCost
      -- A display without the nesting for a frame keeps the recorder from being told.
      · refine ⟨[.display display, .recorder recorder], (display.interrupt left workspace).state.2, _, rows, ?_,
          .missed crowded, ?_⟩
        · simp only [Option.toList_some, List.map_cons, List.map_nil, List.cons_append, List.nil_append,
            Listener.notifyAll, Listener.notify, crowded, if_true, Display.interrupt_of_allows allows]
        · rw [Display.interrupt_of_allows allows]
          simp only
          split
          · exact ⟨⟨place, some display, recorder, rfl, fun _ same => Option.some.inj same ▸ allows, holds⟩, rfl⟩
          · exact ⟨⟨place, some display, recorder, rfl,
              fun _ same => Option.some.inj same ▸ ⟨allows.finite, allows.bounded⟩, holds⟩, rfl⟩
      · let drawn : Workspace :=
          { workspace with shown := .text (display.frame world) :: (Showing.rest display.delay ++ workspace.shown) }
        have kept : ledger.Holds recorder drawn.files rows := holds
        have there : drawn.directory = ledger.directory := place
        obtain ⟨next, files, failure, noted, told, noting, holds⟩ := kept.notify there left action world storable
        have last := notifyAll_recorder left recorder action world drawn
        rw [told] at last
        refine ⟨[.display { display with frames := display.frames + 1 }, .recorder next],
          { drawn with files := files }, failure, noted, ?_, noting, ?_, rfl⟩
        · rw [Option.toList_some, List.map_cons, List.map_nil, List.cons_append, List.nil_append, Listener.notifyAll]
          simp only [Listener.notify, crowded, if_false, Display.draw_of_allows allows]
          rw [last]
        · exact ⟨place, some _, next, rfl, fun _ same => Option.some.inj same ▸ ⟨allows.finite, allows.bounded⟩, holds⟩

/-- Every action that the observers are told of without failing is one row more. -/
theorem tells (watches : ledger.Watches observers workspace rows) {history : List (Action × World)}
    {told : List Observer} {reached : Workspace} (tells : Tells history observers workspace told reached)
    (storable : ∀ row ∈ rows ++ ledger.rowsOf history, row.isStorable = true) :
    ledger.Watches told reached (rows ++ ledger.rowsOf history) ∧ reached.figures = workspace.figures := by
  induction tells generalizing rows with
  | nil =>
      rw [rowsOf, List.map_nil, List.append_nil]
      exact ⟨watches, rfl⟩
  | @cons left action world later observers told heard workspace middle reached first after inductionHypothesis =>
      have split : rows ++ ledger.rowsOf ((action, world) :: later) =
          rows ++ [TraceRow.ofWorld ledger.runId action.name world] ++ ledger.rowsOf later := by
        simp [rowsOf]
      rw [split] at storable ⊢
      obtain ⟨_, _, _, _, notified, noting, watches, figures⟩ := watches.notifyAll left action world
        fun row member => storable row (List.mem_append_left _ member)
      cases first.symm.trans notified
      cases noting
      obtain ⟨watches, kept⟩ := inductionHypothesis watches storable
      exact ⟨watches, kept.trans figures⟩

end Watches

end Ledger

end GridRobot
