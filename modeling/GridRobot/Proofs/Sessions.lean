import GridRobot.Session
import GridRobot.Proofs.Chronicle
import GridRobot.Proofs.Recording

namespace GridRobot

theorem Settings.check_eq_ok {settings result : Settings} : settings.check = .ok result ↔
    result = settings ∧ 0 ≤ settings.beepers ∧ 0 ≤ settings.delay ∧
      settings.runId ≠ ("" : String) := by
  rw [check]
  by_cases beepers : settings.beepers < 0
  · rw [if_pos beepers]
    exact ⟨nofun, fun ⟨_, count, _⟩ => absurd beepers (Int.not_lt.mpr count)⟩
  · rw [if_neg beepers]
    by_cases delay : settings.delay < 0
    · rw [if_pos delay]
      exact ⟨nofun, fun ⟨_, _, time, _⟩ => absurd delay (Int.not_lt.mpr time)⟩
    · rw [if_neg delay]
      by_cases unnamed : settings.runId = ("" : String)
      · rw [if_pos unnamed]
        exact ⟨nofun, fun ⟨_, _, _, named⟩ => absurd unnamed named⟩
      · rw [if_neg unnamed, Except.ok.injEq, eq_comm]
        simp only [Int.not_lt.mp beepers, Int.not_lt.mp delay, unnamed, ne_eq, not_false_eq_true, and_true]

namespace Session

/-- The execution of the program in the world that was loaded. -/
def Sources.execution (sources : Sources) (fuel : Nat) : Execution :=
  sources.program.run fuel sources.world {}

/-- What a run before observers comes to if none of them fails but for want of nesting, with those of its actions that
are noted: it is the run that nobody watches, or that run cut short. Of a run that is cut short, the last action may
be missing. -/
inductive Sources.Comes (sources : Sources) (fuel : Nat) : Execution → List Action → Prop where
  | whole : sources.Comes fuel (sources.execution fuel) (sources.execution fuel).actions
  | late {left : Nat} {earlier : List Action} {action : Action} {execution : Execution}
      (cut : sources.program.CutsShort fuel sources.world {} left earlier action execution)
      (tight : left < Nesting.flushCost) : sources.Comes fuel execution (earlier ++ [action])
  | missed {left : Nat} {earlier : List Action} {action : Action} {execution : Execution}
      (cut : sources.program.CutsShort fuel sources.world {} left earlier action execution)
      (tight : left < Nesting.frameCost) : sources.Comes fuel execution earlier

/-- The actions that are done before the observers that the settings ask for. -/
def actions (fuel : Nat) (settings : Settings) (sources : Sources) (workspace : Workspace) : List Action :=
  match startObservers settings sources.world workspace with
  | .error _ _ => []
  | .ok observers started =>
    (sources.program.watch fuel sources.world {} observers started).execution.actions

/-- A run with a trace can start: its settings are valid, its sources are read, its banner can be shown and its pauses
can be made if there is a display, its name can be encoded, and the trace can be stored at its path. -/
structure Ready (settings : Settings) (workspace : Workspace) (sources : Sources) (path : Path) : Prop where
  checked : settings.check = .ok settings
  loaded : load settings workspace = .ok sources workspace
  banner : settings.display = true → ∀ banner, settings.banner = some banner →
    (∃ lines, workspace.files.readLines workspace.directory banner = .ok lines) ∨
      workspace.files.readLines workspace.directory banner = .error (.file .notFound)
  patient : settings.display = true → workspace.Allows settings.delay.toNat
  named : settings.runId.isEncodable = true
  trace : settings.trace = some path
  writable : ∃ tree, workspace.files.store workspace.directory path .unfinishedTrace = .ok tree

section
variable {settings : Settings} {workspace reached : Workspace} {sources : Sources} {path : Path}

theorem delay_of_check (checked : settings.check = .ok settings) : 0 ≤ settings.delay :=
  (Settings.check_eq_ok.mp checked).2.2.1

/-- What is loaded is read from the files, and nothing is changed. -/
theorem load_eq_ok : load settings workspace = .ok sources reached ↔
    reached = workspace ∧ Theme.find settings.theme = .ok sources.theme ∧
      ∃ map lines, workspace.files.loadMap workspace.directory settings.map = .ok map ∧
        workspace.files.readLines workspace.directory settings.program = .ok lines ∧
        map.setBag settings.beepers = .ok sources.world ∧ sources.program = Program.classify lines := by
  simp only [load, Job.bind_eq_ok, Job.ofExcept_eq_ok, Job.ofFiles_eq_ok]
  constructor
  · rintro ⟨theme, _, ⟨found, rfl⟩, map, _, ⟨read, rfl⟩, lines, _, ⟨listed, rfl⟩, world, _, ⟨bagged, rfl⟩,
      ended⟩
    cases ended
    refine ⟨rfl, found, map, lines, read, listed, ?_, rfl⟩
    cases given : map.setBag settings.beepers with
    | error error =>
        rw [given] at bagged
        cases bagged
    | ok start =>
        rw [given] at bagged
        cases bagged
        rfl
  · rintro ⟨rfl, found, map, lines, read, listed, bagged, same⟩
    refine ⟨sources.theme, reached, ⟨found, rfl⟩, map, reached, ⟨read, rfl⟩, lines, reached, ⟨listed, rfl⟩,
      sources.world, reached, ⟨?_, rfl⟩, ?_⟩
    · rw [bagged]
      rfl
    · rw [← same]
      rfl

/-- A run starts on a map, before any step. -/
theorem placed_of_load (loaded : load settings workspace = .ok sources reached) :
    sources.world.Placed ∧ sources.world.steps = 0 := by
  obtain ⟨_, _, map, lines, read, _, bagged, _⟩ := load_eq_ok.mp loaded
  obtain ⟨content, text, _, _, parsed⟩ := FileTree.loadMap_eq_ok.mp read
  refine ⟨(Map.placed_parse parsed).setBag bagged, ?_⟩
  obtain ⟨_, same⟩ := World.setBag_eq_ok.mp bagged
  rw [same]
  show map.steps = 0
  exact Map.steps_parse parsed

/-- A display whose pauses can be made. -/
theorem draw_of_allows {display : Display} (allows : workspace.Allows display.delay) (world : World) :
    draw display world workspace = .ok { display with frames := display.frames + 1 }
      { workspace with shown := .text (display.frame world) :: (Showing.rest display.delay ++ workspace.shown) } := by
  rw [draw, Job.get_bind]
  simp only [Display.draw_of_allows allows]
  rfl

theorem showBanner_keeps (readable : (∃ lines, workspace.files.readLines workspace.directory path = .ok lines) ∨
      workspace.files.readLines workspace.directory path = .error (.file .notFound)) :
    ∃ shown, showBanner path workspace = .ok () shown ∧ workspace.Keeps shown := by
  rcases readable with ⟨lines, readable⟩ | missing
  · refine ⟨workspace.print (String.join (lines.map (· ++ "\n"))), ?_, ⟨rfl, rfl, rfl, rfl⟩⟩
    rw [showBanner, Job.get_bind, readable]
    rfl
  · refine ⟨workspace, ?_, .refl workspace⟩
    rw [showBanner, Job.get_bind, missing]
    rfl

/-- A display that can be made shows the start and leaves all files as they are. -/
theorem startDisplay_keeps (delay : 0 ≤ settings.delay) (allows : workspace.Allows settings.delay.toNat)
    (readable : ∀ banner, settings.banner = some banner →
      (∃ lines, workspace.files.readLines workspace.directory banner = .ok lines) ∨
        workspace.files.readLines workspace.directory banner = .error (.file .notFound)) (world : World) :
    ∃ shown, startDisplay settings world workspace = .ok ⟨settings.delay.toNat, true, 1⟩ shown ∧
      workspace.Keeps shown := by
  let display : Display := { delay := settings.delay.toNat, clear := true }
  have made : Display.create settings.delay true = .ok display := by
    rw [Display.create, if_neg (Int.not_lt.mpr delay)]
  cases given : settings.banner with
  | none =>
      refine ⟨{ workspace with
        shown := .text (display.frame world) :: (Showing.rest display.delay ++ workspace.shown) }, ?_,
        ⟨rfl, rfl, rfl, rfl⟩⟩
      rw [startDisplay, given, made]
      exact @draw_of_allows workspace display allows world
  | some banner =>
      obtain ⟨shown, printed, kept⟩ := showBanner_keeps (readable banner given)
      refine ⟨{ shown with shown := .text (display.frame world) :: (Showing.rest display.delay ++ shown.shown) }, ?_,
        kept.trans ⟨rfl, rfl, rfl, rfl⟩⟩
      rw [startDisplay, given, made]
      exact (Job.bind_of_ok printed).trans (@draw_of_allows shown display (allows.of_keeps kept) world)

/-- What the recorder of a run is set up with. -/
def ledger (settings : Settings) {files tree : FileTree} {directory : List String}
    (stored : files.store directory path .unfinishedTrace = .ok tree) : Ledger where
  path := path
  runId := settings.runId
  threshold := Recorder.defaultThreshold
  directory := directory
  base := (files.ensureParent directory path).tree
  opened := tree
  writable := (FileTree.store_eq_ok.mp stored).2

/-- A recorder whose file can be stored has recorded the start. -/
theorem startRecorder_holds {tree : FileTree} (world : World)
    (stored : workspace.files.store workspace.directory path .unfinishedTrace = .ok tree) :
    ∃ recorder, startRecorder settings path world workspace =
        .ok recorder { workspace with files := (ledger settings stored).base } ∧
      (ledger settings stored).Holds recorder (ledger settings stored).base
        [TraceRow.ofWorld settings.runId ("start" : String) world] := by
  have created : Recorder.create path settings.runId Recorder.defaultThreshold =
      .ok { path, runId := settings.runId, threshold := Recorder.defaultThreshold } := rfl
  have made := Job.ensureParent_eq path workspace
  rw [(FileTree.store_eq_ok.mp stored).1] at made
  let recorder : Recorder :=
    { path, runId := settings.runId, threshold := Recorder.defaultThreshold,
      buffer := [TraceRow.ofWorld settings.runId ("start" : String) world], rowsWritten := 1 }
  refine ⟨recorder, ?_, rfl, rfl, rfl, rfl, rfl⟩
  rw [startRecorder, created, Job.ofExcept_ok, pure_bind, Job.bind_of_ok made]
  rfl

/-- The observers of a run that can start have seen the start. -/
theorem startObservers_watches {tree : FileTree} (ready : Ready settings workspace sources path)
    (stored : workspace.files.store workspace.directory path .unfinishedTrace = .ok tree) (world : World) :
    ∃ observers reached, startObservers settings world workspace = .ok observers reached ∧
      (ledger settings stored).Watches observers reached
        [TraceRow.ofWorld settings.runId ("start" : String) world] ∧
      reached.figures = workspace.figures := by
  by_cases on : settings.display = true
  · have allows := ready.patient on
    obtain ⟨shown, started, kept⟩ := startDisplay_keeps (delay_of_check ready.checked) allows (ready.banner on) world
    have allows := allows.of_keeps kept
    obtain ⟨files, directory, longest, showings, errors, figures⟩ := shown
    obtain ⟨rfl, rfl, rfl, rfl⟩ := kept
    obtain ⟨recorder, recording, holds⟩ := @startRecorder_holds settings
      { workspace with shown := showings, errors } path tree world stored
    refine ⟨[.display ⟨settings.delay.toNat, true, 1⟩, .recorder recorder],
      { workspace with files := (ledger settings stored).base, shown := showings, errors }, ?_,
      ⟨rfl, some ⟨settings.delay.toNat, true, 1⟩, recorder, rfl, ?_, holds⟩, rfl⟩
    · simp only [startObservers, on, if_true, ready.trace]
      rw [Job.bind_of_ok started]
      exact Job.bind_of_ok recording
    · rintro display ⟨⟩
      exact ⟨allows.finite, allows.bounded⟩
  · obtain ⟨recorder, recording, holds⟩ := @startRecorder_holds settings workspace path tree world stored
    refine ⟨[.recorder recorder], { workspace with files := (ledger settings stored).base }, ?_,
      ⟨rfl, none, recorder, rfl, nofun, holds⟩, rfl⟩
    simp only [startObservers, on, Bool.false_eq_true, if_false, ready.trace]
    exact Job.bind_of_ok recording

/-- Closing the recorders leaves the trace in its file. -/
theorem closeRecorders_eq {ledger : Ledger} {observers : List Observer} {rows : List TraceRow}
    (watches : ledger.Watches observers workspace rows) (storable : ∀ row ∈ rows, row.isStorable = true) :
    ∃ trace files, Trace.rows trace = rows ∧
      ledger.base.write ledger.directory ledger.path (.trace trace) = .ok files ∧
      closeRecorders observers workspace = .ok () { workspace with files := files } := by
  obtain ⟨directory, screen, recorder, rfl, _, holds⟩ := watches
  obtain ⟨last, files, trace, closed, told, written⟩ := holds.close storable
  have ended : closeRecorders [.recorder recorder] workspace = .ok () { workspace with files := files } := by
    simp only [closeRecorders, Job.get_bind, directory, closed]
    rfl
  refine ⟨trace, files, told, written, ?_⟩
  cases screen with
  | none => exact ended
  | some display => exact ended

/-- The last frame leaves all files as they are. -/
theorem showEnd_keeps {ledger : Ledger} {observers : List Observer} {rows : List TraceRow} {other : Workspace}
    (watches : ledger.Watches observers other rows) (same : workspace.longestPause = other.longestPause)
    (world : World) : ∃ shown, showEnd world observers workspace = .ok () shown ∧ workspace.Keeps shown := by
  obtain ⟨_, screen, recorder, rfl, allows, _⟩ := watches
  cases screen with
  | none => exact ⟨workspace, rfl, .refl workspace⟩
  | some display =>
      have allows : workspace.Allows display.delay :=
        ⟨(allows display rfl).finite, fun longest bound => (allows display rfl).bounded longest (same.symm.trans bound)⟩
      refine ⟨_, Job.bind_of_ok (Job.bind_of_ok (draw_of_allows allows world)), rfl, rfl, rfl, rfl⟩

/-- A watched run notes the actions that it comes to in their order. -/
theorem watch_comes {ledger : Ledger} {observers : List Observer} {rows : List TraceRow} (fuel : Nat)
    (watches : ledger.Watches observers workspace rows)
    (storable : ∀ row ∈ rows ++ ledger.rowsOf (sources.world.history
      (sources.program.watch fuel sources.world {} observers workspace).execution.actions), row.isStorable = true) :
    ∃ execution noted told ended, sources.program.watch fuel sources.world {} observers workspace =
        { execution, listeners := told, workspace := ended } ∧
      sources.Comes fuel execution noted ∧
      ledger.Watches told ended (rows ++ ledger.rowsOf (sources.world.history noted)) ∧
      (∀ row ∈ rows ++ ledger.rowsOf (sources.world.history noted), row.isStorable = true) ∧
      ended.figures = workspace.figures := by
  have follows := sources.program.follows_watch fuel sources.world {} observers workspace
  generalize sources.program.watch fuel sources.world {} observers workspace = watched at follows storable
  cases follows with
  | heard tells =>
      obtain ⟨watches, figures⟩ := watches.tells tells storable
      exact ⟨_, _, _, _, rfl, .whole, watches, storable, figures⟩
  | @broken left number action rest before more next told heard middle reached failure passes replayed tells
      performed failed later =>
      have split : rows ++ ledger.rowsOf (sources.world.history (before.actions.reverse ++ [action])) =
          rows ++ ledger.rowsOf (sources.world.history before.actions.reverse) ++
            [TraceRow.ofWorld ledger.runId action.name next] := by
        rw [World.history_concat replayed performed, List.append_assoc]
        simp [Ledger.rowsOf]
      rw [BreakOff.actions_watched, List.reverse_cons] at storable
      have whole := storable
      rw [split] at storable
      have earlier := fun row member => storable row (List.mem_append_left _ member)
      obtain ⟨watches, figures⟩ := watches.tells tells earlier
      obtain ⟨_, _, _, noted, notified, noting, watches, kept⟩ := watches.notifyAll left action next storable
      cases failed.symm.trans notified
      have cut := Program.CutsShort.of_broken passes replayed performed later
      cases noting with
      | late tight =>
          refine ⟨_, _, heard, reached, rfl, .late cut tight, ?_, whole, kept.trans figures⟩
          rw [split]
          exact watches
      | missed tight =>
          exact ⟨_, _, heard, reached, rfl, .missed cut tight, watches, earlier, kept.trans figures⟩

/-- The picture of the world that a run leaves. -/
def lastPicture (sources : Sources) (execution : Execution) (snapshot : Path) : Figure :=
  .snapshot (.ofWorld execution.world snapshot none sources.theme)

/-- What a run that returns has gone through: it is run before the observers, none of which fails, the recorders are
closed, the end is shown, and the picture is saved if there shall be one. -/
structure Returns (fuel : Nat) (settings : Settings) (workspace : Workspace) (report : Report)
    (reached : Workspace) (sources : Sources) (observers : List Observer) (started : Workspace)
    (told : Watched Observer) (ended drawn : Workspace) : Prop where
  loaded : load settings workspace = .ok sources workspace
  observed : startObservers settings sources.world workspace = .ok observers started
  watched : sources.program.watch fuel sources.world {} observers started = told
  heard : told.failure = none
  closed : closeRecorders told.listeners told.workspace = .ok () ended
  reported : Report.ofExecution told.execution = .ok report
  shows : showEnd told.execution.world told.listeners ended = .ok () drawn
  plain : settings.snapshot = none → reached = drawn
  pictured : ∀ snapshot, settings.snapshot = some snapshot →
    Job.saveFigure (lastPicture sources told.execution snapshot) snapshot drawn = .ok () reached

theorem returns_of_run {fuel : Nat} {report : Report} (returned : run fuel settings workspace = .ok report reached) :
    ∃ sources observers started told ended drawn,
      Returns fuel settings workspace report reached sources observers started told ended drawn := by
  obtain ⟨sources, loading, loaded, rest⟩ := Job.bind_eq_ok.mp returned
  obtain rfl : loading = workspace := (load_eq_ok.mp loaded).1
  obtain ⟨observers, started, observed, rest⟩ := Job.bind_eq_ok.mp rest
  obtain ⟨⟨summary, world, told⟩, ended, performed, rest⟩ := Job.bind_eq_ok.mp rest
  obtain ⟨_, drawn, shows, final⟩ := Job.bind_eq_ok.mp rest
  rw [perform, Job.get_bind, Job.set_bind] at performed
  obtain ⟨_, closing, closed, summed⟩ := Job.bind_eq_ok.mp performed
  cases heard : (sources.program.watch fuel sources.world {} observers started).failure with
  | some failure =>
      rw [heard] at summed
      cases summed
  | none =>
      rw [heard] at summed
      obtain ⟨_, _, given, same⟩ := Job.bind_eq_ok.mp summed
      obtain ⟨reported, rfl⟩ := Job.ofExcept_eq_ok.mp given
      cases same
      cases asked : settings.snapshot with
      | none =>
          rw [asked] at final
          cases final
          exact ⟨sources, observers, started, _, _, _, loaded, observed, rfl, heard, closed, reported, shows,
            fun _ => rfl, by rw [asked]; exact nofun⟩
      | some snapshot =>
          rw [asked] at final
          simp only [Job.discard_saveSnapshot_bind] at final
          obtain ⟨_, _, saved, same⟩ := Job.bind_eq_ok.mp final
          cases same
          refine ⟨sources, observers, started, _, _, drawn, loaded, observed, rfl, heard, closed, reported, shows,
            by rw [asked]; exact nofun, ?_⟩
          intro other same
          cases asked.symm.trans same
          exact saved

/-- What is left of a run when its trace is stored: it fails if its execution has no report, and else it gives the
report after a picture of the last world if there shall be one. -/
structure Closes (fuel : Nat) (settings : Settings) (sources : Sources) (execution : Execution)
    (workspace ended : Workspace) : Prop where
  failed : ∀ failure, Report.ofExecution execution = .error failure →
    run fuel settings workspace = .error failure ended
  plain : ∀ report, Report.ofExecution execution = .ok report →
    settings.snapshot = none → run fuel settings workspace = .ok report ended
  pictured : ∀ report snapshot, Report.ofExecution execution = .ok report →
    settings.snapshot = some snapshot → run fuel settings workspace =
      (do
        Job.saveFigure (lastPicture sources execution snapshot) snapshot
        return report) ended

theorem Ready.placed (ready : Ready settings workspace sources path) :
    sources.world.Placed ∧ sources.world.steps = 0 :=
  placed_of_load ready.loaded

theorem Sources.Comes.replayed {fuel : Nat} {execution : Execution} {noted : List Action}
    (comes : sources.Comes fuel execution noted) :
    execution.actions.foldlM World.perform sources.world = .ok execution.world ∧
      ∃ last, noted.foldlM World.perform sources.world = .ok last := by
  cases comes with
  | whole =>
      have led := sources.world.replayed_run sources.program fuel {}
      exact ⟨led, _, led⟩
  | late cut tight =>
      obtain ⟨_, _, before, _, _, led, performed⟩ := cut.comes
      have whole := World.replay_concat.mpr ⟨_, led, performed⟩
      rw [cut.actions]
      exact ⟨whole, _, whole⟩
  | missed cut tight =>
      obtain ⟨_, _, before, _, _, led, performed⟩ := cut.comes
      rw [cut.actions]
      exact ⟨World.replay_concat.mpr ⟨_, led, performed⟩, _, led⟩

/-- A run that is cut short reports nesting that is too deep. -/
theorem report_of_cut {fuel left : Nat} {earlier : List Action} {action : Action} {execution : Execution}
    (cut : sources.program.CutsShort fuel sources.world {} left earlier action execution) :
    Report.ofExecution execution = .ok (.ofWorld execution.world (some ⟨.nestingTooDeep, none⟩)) := by
  rw [Report.ofExecution, cut.stop]

/-- A run with another report is not cut short. -/
theorem Sources.Comes.whole_of_report {fuel : Nat} {execution : Execution} {noted : List Action} {report : Report}
    (comes : sources.Comes fuel execution noted) (reported : Report.ofExecution execution = .ok report)
    (other : report.fault ≠ some ⟨.nestingTooDeep, none⟩) :
    execution = sources.execution fuel ∧ noted = execution.actions := by
  cases comes with
  | whole => exact ⟨rfl, rfl⟩
  | late cut tight =>
      cases (report_of_cut cut).symm.trans reported
      exact absurd rfl other
  | missed cut tight =>
      cases (report_of_cut cut).symm.trans reported
      exact absurd rfl other

/-- A run that can start stores the chronicle of the actions that are noted, whatever it ends with. -/
theorem Ready.closes (ready : Ready settings workspace sources path) (fuel : Nat)
    (small : ∀ row ∈ sources.world.chronicle settings.runId (actions fuel settings sources workspace), row.Small) :
    ∃ execution noted trace ended, sources.Comes fuel execution noted ∧
      Trace.rows trace = sources.world.chronicle settings.runId noted ∧
      workspace.files.store workspace.directory path (.trace trace) = .ok ended.files ∧
      ended.directory = workspace.directory ∧ ended.figures = workspace.figures ∧
      Closes fuel settings sources execution workspace ended := by
  obtain ⟨placed, _⟩ := ready.placed
  obtain ⟨tree, stored⟩ := ready.writable
  obtain ⟨observers, started, observed, watches, figures⟩ := startObservers_watches ready stored sources.world
  have told : actions fuel settings sources workspace =
      (sources.program.watch fuel sources.world {} observers started).execution.actions := by
    rw [actions, observed]
  have rows (done : List Action) : sources.world.chronicle settings.runId done =
      [TraceRow.ofWorld settings.runId ("start" : String) sources.world] ++
        (ledger settings stored).rowsOf (sources.world.history done) := by
    simp [World.chronicle, World.moments, Ledger.rowsOf, ledger]
  rw [told] at small
  have storable := World.isStorable_chronicle placed ready.named (sources.program.replayed_watch ..) small
  rw [rows] at storable
  obtain ⟨execution, noted, told, seen, watched, comes, watches, storable, kept⟩ := watch_comes fuel watches storable
  obtain ⟨trace, files, same, written, closed⟩ := closeRecorders_eq watches storable
  have whole : workspace.files.store workspace.directory path (.trace trace) = .ok files :=
    FileTree.store_eq_ok.mpr ⟨(FileTree.store_eq_ok.mp stored).1, written⟩
  have ran : run fuel settings workspace = _ := Job.bind_of_ok ready.loaded
  rw [Job.bind_of_ok observed] at ran
  have performed : perform fuel sources observers started =
      (do
        let report ← Job.ofExcept (Report.ofExecution execution)
        return (report, execution.world, told)) { seen with files } := by
    rw [perform, Job.get_bind, Job.set_bind, watched, Job.bind_of_ok closed]
  -- The trace is stored before it is known whether the program has a report.
  cases reported : Report.ofExecution execution with
  | error failure =>
      rw [reported] at performed
      rw [Job.bind_of_error performed] at ran
      refine ⟨execution, noted, trace, { seen with files }, comes, same.trans (rows noted).symm, whole,
        watches.directory, kept.trans figures, ?_, ?_, ?_⟩
      · intro other same
        cases reported.symm.trans same
        exact ran
      · intro report same
        cases reported.symm.trans same
      · intro report snapshot same
        cases reported.symm.trans same
  | ok report =>
      rw [reported] at performed
      rw [Job.bind_of_ok performed] at ran
      obtain ⟨shown, drawn, unchanged⟩ := @showEnd_keeps { seen with files } _ _ _ _ watches rfl execution.world
      simp only at ran
      rw [Job.bind_of_ok drawn] at ran
      rw [show files = shown.files from unchanged.files.symm] at whole
      refine ⟨execution, noted, trace, shown, comes, same.trans (rows noted).symm, whole,
        unchanged.directory.trans watches.directory, unchanged.figures.trans (kept.trans figures), ?_, ?_, ?_⟩
      · intro failure same
        cases reported.symm.trans same
      · intro other same none
        cases reported.symm.trans same
        rw [ran, none]
        rfl
      · intro other snapshot same given
        cases reported.symm.trans same
        rw [ran, given]
        exact congrFun (Job.discard_saveSnapshot_bind ..) shown

variable {fuel : Nat} {ended : Workspace} {report : Report} {execution : Execution}

/-- A run that returns gives the report of its program. -/
theorem Closes.reported (closes : Closes fuel settings sources execution workspace ended)
    (returned : run fuel settings workspace = .ok report reached) :
    Report.ofExecution execution = .ok report := by
  cases given : Report.ofExecution execution with
  | error failure =>
      rw [closes.failed failure given] at returned
      cases returned
  | ok other =>
      cases asked : settings.snapshot with
      | none =>
          rw [closes.plain other given asked] at returned
          cases returned
          rfl
      | some snapshot =>
          rw [closes.pictured other snapshot given asked] at returned
          obtain ⟨_, _, _, same⟩ := Job.bind_eq_ok.mp returned
          cases same
          rfl

/-- A run that returns has kept the picture that it was asked for. -/
theorem Closes.figures {snapshot : Path} (closes : Closes fuel settings sources execution workspace ended)
    (returned : run fuel settings workspace = .ok report reached) (asked : settings.snapshot = some snapshot) :
    reached.figures = ended.figures ++ [lastPicture sources execution snapshot] := by
  rw [closes.pictured report snapshot (closes.reported returned) asked] at returned
  obtain ⟨_, _, saved, same⟩ := Job.bind_eq_ok.mp returned
  cases same
  exact Job.figures_of_saveFigure saved

/-- After the trace is stored, at most the picture is saved. -/
theorem Closes.after_cases (closes : Closes fuel settings sources execution workspace ended) :
    (run fuel settings).after workspace = ended ∨ ∃ snapshot, settings.snapshot = some snapshot ∧
      (run fuel settings).after workspace =
        (Job.saveFigure (lastPicture sources execution snapshot) snapshot).after ended := by
  cases given : Report.ofExecution execution with
  | error failure => exact Or.inl (Job.after_of_error (closes.failed failure given))
  | ok report =>
      cases asked : settings.snapshot with
      | none => exact Or.inl (Job.after_of_ok (closes.plain report given asked))
      | some snapshot =>
          refine Or.inr ⟨snapshot, rfl, ?_⟩
          rw [Job.after, closes.pictured report snapshot given asked]
          exact Job.after_bind_pure ..

theorem Closes.extends_after (closes : Closes fuel settings sources execution workspace ended) :
    ended.files.Extends ((run fuel settings).after workspace).files
      (settings.snapshot.toList.map (·.resolveParts ended.directory)) := by
  rcases closes.after_cases with same | ⟨snapshot, asked, same⟩
  · rw [same]
    exact .refl _ _
  · rw [same, asked]
    exact Job.extends_saveFigure ..

theorem Closes.rooted_after (closes : Closes fuel settings sources execution workspace ended)
    (rooted : ended.files.Rooted ended.directory) :
    ((run fuel settings).after workspace).directory = ended.directory ∧
      ((run fuel settings).after workspace).files.Rooted ended.directory := by
  rcases closes.after_cases with same | ⟨snapshot, asked, same⟩
  · rw [same]
    exact ⟨rfl, rooted⟩
  · rw [same]
    exact ⟨(Job.after_saveFigure ..).1, Job.rooted_saveFigure _ _ _ rooted⟩

/-- The trace can be read unless the picture takes its place. -/
theorem Closes.read_trace {trace : Trace} (closes : Closes fuel settings sources execution workspace ended)
    (directory : ended.directory = workspace.directory)
    (stored : workspace.files.store workspace.directory path (.trace trace) = .ok ended.files)
    (apart : ∀ snapshot, settings.snapshot = some snapshot →
      snapshot.resolve workspace.directory ≠ path.resolve workspace.directory) :
    ((run fuel settings).after workspace).files.read workspace.directory path = .ok (.trace trace) := by
  apply closes.extends_after.read_eq _ (FileTree.read_of_store stored)
  intro member
  obtain ⟨snapshot, asked, same⟩ := List.mem_map.mp member
  rw [directory] at same
  exact apart snapshot (Option.mem_toList.mp asked) (congrArg (Path.mk .slash) same)

end

end Session

/-- A row shows the state that a report tells. -/
structure Report.Shown (report : Report) (row : TraceRow) : Prop where
  step : row.step = report.steps
  x : row.x = report.position.x
  y : row.y = report.position.y
  facing : row.facing = report.facing.name
  bag : row.bag = report.bag
  boardBeepers : row.boardBeepers = report.boardBeepers

/-- A report tells the world that the run leaves. -/
theorem Report.shown_ofWorld {execution : Execution} {report : Report} (runId : WideString) (action : String)
    (reported : Report.ofExecution execution = .ok report) :
    report.Shown (TraceRow.ofWorld runId action execution.world) := by
  rw [Report.ofExecution] at reported
  split at reported <;> cases reported <;> exact ⟨rfl, rfl, rfl, rfl, rfl, rfl⟩

namespace Session

/-- A file of plain text. -/
def plainFile (text : String) : Entry :=
  .file (.bytes (text.toList.map Char.toUInt8))

/-- A directory with a map and a program that walks to a beeper, picks it and walks into the border. -/
def errand : Workspace where
  directory := ["home"]
  files := ⟨[(["home"], .directory), (["home", "map.txt"], plainFile ">.*\n#.."),
    (["home", "instructions.txt"], plainFile ("BEGINNING-OF-PROGRAM\n\tBEGINNING-OF-EXECUTION\n" ++
      "\t\tmove;\n\t\tmove;\n\t\tpickbeeper;\n\t\tmove;\n\t\tturnoff\n\tEND-OF-EXECUTION\nEND-OF-PROGRAM\n"))]⟩

/-- Settings that ask for a trace and for a picture of the last world. -/
def errandSettings : Settings where
  beepers := 2
  display := false
  trace := some ⟨.none, ["logs", "trace.parquet"]⟩
  snapshot := some ⟨.none, ["last.png"]⟩

def errandSources : Sources where
  theme := .light
  world := { width := 3, height := 2, robot := ⟨⟨0, 0⟩, .east, 2⟩, walls := [⟨0, 1⟩], beepers := [⟨2, 0⟩] }
  program := Program.classify ["BEGINNING-OF-PROGRAM", "\tBEGINNING-OF-EXECUTION", "\t\tmove;", "\t\tmove;",
    "\t\tpickbeeper;", "\t\tmove;", "\t\tturnoff", "\tEND-OF-EXECUTION", "END-OF-PROGRAM"]

theorem ready_errand : Ready errandSettings errand errandSources ⟨.none, ["logs", "trace.parquet"]⟩ where
  checked := rfl
  loaded := by
    refine load_eq_ok.mpr ⟨rfl, rfl, ⟨3, 2, ⟨⟨0, 0⟩, .east, 0⟩, [⟨0, 1⟩], [⟨2, 0⟩], 0⟩, _, ?_, ?_, ?_, rfl⟩
    · decide +kernel
    · decide +kernel
    · decide +kernel
  banner := nofun
  patient := nofun
  named := by decide
  trace := rfl
  writable := ⟨_, rfl⟩

/-- The errand ends at the border, with the beeper in the bag. -/
theorem value_errand : (run 20 errandSettings).value? errand =
    some ⟨3, ⟨2, 0⟩, .east, 3, 0, some (.onLine (.robot .frontBlocked) 5)⟩ := by
  rw [run, Job.value?_bind_of_ok ready_errand.loaded]
  decide +kernel

end Session

end GridRobot
