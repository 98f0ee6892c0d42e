import GridRobot.Proofs.Completion
import GridRobot.Proofs.Sessions

namespace GridRobot

/-- A program is only given a report if its run has ended. -/
theorem Report.ended_of_ofExecution {execution : Execution} {report : Report}
    (reported : Report.ofExecution execution = .ok report) : execution.stop ≠ some .outOfFuel := by
  intro stopped
  rw [Report.ofExecution, stopped] at reported
  cases reported

/-- The settings ask for an observer: a display or a recorder. -/
def Settings.IsWatched (settings : Settings) : Prop :=
  settings.display = true ∨ settings.trace ≠ none

namespace Session

section
variable {settings settings' : Settings} {workspace workspace' : Workspace} {sources sources' : Sources}

/-- Settings that agree on beepers, map and program load the same world and the same program. -/
theorem load_agrees (beepers : settings'.beepers = settings.beepers) (map : settings'.map = settings.map)
    (program : settings'.program = settings.program) (files : workspace'.files = workspace.files)
    (directory : workspace'.directory = workspace.directory)
    (loaded : load settings workspace = .ok sources workspace)
    (loaded' : load settings' workspace' = .ok sources' workspace') :
    sources'.world = sources.world ∧ sources'.program = sources.program := by
  obtain ⟨_, _, board, lines, read, listed, bagged, same⟩ := load_eq_ok.mp loaded
  obtain ⟨_, _, board', lines', read', listed', bagged', same'⟩ := load_eq_ok.mp loaded'
  rw [files, directory, map, read] at read'
  rw [files, directory, program, listed] at listed'
  cases read'
  cases listed'
  rw [beepers, bagged] at bagged'
  exact ⟨(Except.ok.inj bagged').symm, same'.trans same.symm⟩

end

/-- A run that is cut short for want of nesting has this report. -/
def Sources.CutReport (sources : Sources) (fuel : Nat) (report : Report) : Prop :=
  ∃ left earlier action execution, sources.program.CutsShort fuel sources.world {} left earlier action execution ∧
    left < Nesting.flushCost ∧ Report.ofExecution execution = .ok report

/-- Observers that do not fail leave a run as it is, or cut it short for want of nesting. -/
theorem watch_cases (sources : Sources) (fuel : Nat) (observers : List Observer) (workspace : Workspace)
    (heard : (sources.program.watch fuel sources.world {} observers workspace).failure = none) :
    (sources.program.watch fuel sources.world {} observers workspace).execution = sources.execution fuel ∨
      ∃ left earlier action, left < Nesting.flushCost ∧ sources.program.CutsShort fuel sources.world {} left earlier
        action (sources.program.watch fuel sources.world {} observers workspace).execution := by
  have follows := sources.program.follows_watch fuel sources.world {} observers workspace
  generalize sources.program.watch fuel sources.world {} observers workspace = watched at follows heard
  cases follows with
  | heard tells => exact Or.inl rfl
  | @broken left number action rest before more next told heard' middle reached failure passes replayed tells performed
      failed later =>
      rcases Observer.failure_of_notifyAll (congrArg Attempt.failure failed) with foreign | ⟨rfl, tight⟩
      · rw [foreign number] at heard
        cases heard
      · exact Or.inr ⟨left, _, action, tight, .of_broken passes replayed performed later⟩

/-- The report of a run is that of its program, or the run is watched and cut short. -/
theorem report_cases {fuel : Nat} {settings : Settings} {workspace reached : Workspace} {report : Report}
    (returned : run fuel settings workspace = .ok report reached) :
    ∃ sources, load settings workspace = .ok sources workspace ∧
      (Report.ofExecution (sources.execution fuel) = .ok report ∨
        settings.IsWatched ∧ sources.CutReport fuel report) := by
  obtain ⟨sources, observers, started, told, _, _, returns⟩ := returns_of_run returned
  refine ⟨sources, returns.loaded, ?_⟩
  by_cases watched : settings.IsWatched
  · have heard := returns.heard
    have reported := returns.reported
    rw [← returns.watched] at heard reported
    rcases watch_cases sources fuel observers started heard with same | ⟨left, earlier, action, tight, cut⟩
    · rw [same] at reported
      exact Or.inl reported
    · exact Or.inr ⟨watched, left, earlier, action, _, cut, tight, reported⟩
  · rw [Settings.IsWatched, not_or, not_not, Bool.not_eq_true] at watched
    have observed := returns.observed
    rw [startObservers, watched.1, watched.2] at observed
    cases observed
    have reported := returns.reported
    rw [← returns.watched, List.append_nil, Program.watch_nil] at reported
    exact Or.inl reported

/-- Only the beepers, the map and the program decide what a run does, as far as there is nesting left for those who
watch it. Two runs that return give the same report whenever their settings agree on these three and their files are
the same, whatever they show and store, unless one of them is watched and cut short; and none is cut short that never
comes to an action with little nesting left. -/
theorem only_sources_decide (fuel fuel' : Nat) (settings settings' : Settings) (workspace workspace' : Workspace)
    (report report' : Report) (reached reached' : Workspace) (beepers : settings'.beepers = settings.beepers)
    (map : settings'.map = settings.map) (program : settings'.program = settings.program)
    (files : workspace'.files = workspace.files) (directory : workspace'.directory = workspace.directory)
    (returned : run fuel settings workspace = .ok report reached)
    (returned' : run fuel' settings' workspace' = .ok report' reached') :
    ∃ sources, load settings workspace = .ok sources workspace ∧
      (report' = report ∨ settings.IsWatched ∧ sources.CutReport fuel report ∨
        settings'.IsWatched ∧ sources.CutReport fuel' report') ∧
      ((∀ left number action rest before, sources.program.Passes sources.world {}
          ⟨left, .statement number (Action.name action) rest, before⟩ → Nesting.flushCost ≤ left) →
        report' = report) := by
  obtain ⟨sources, loaded, own⟩ := report_cases returned
  obtain ⟨sources', loaded', own'⟩ := report_cases returned'
  obtain ⟨world, lines⟩ := load_agrees beepers map program files directory loaded loaded'
  rw [Sources.execution, world, lines] at own'
  rw [Sources.CutReport, world, lines] at own'
  have settled : report' = report ∨ settings.IsWatched ∧ sources.CutReport fuel report ∨
      settings'.IsWatched ∧ sources.CutReport fuel' report' := by
    rcases own with reported | cut
    · rcases own' with reported' | cut'
      · rw [Sources.execution] at reported
        rw [Program.run_eq_of_ended (Report.ended_of_ofExecution reported) (Report.ended_of_ofExecution reported'),
          reported'] at reported
        exact Or.inl (Except.ok.inj reported)
      · exact Or.inr (Or.inr cut')
    · exact Or.inr (Or.inl cut)
  refine ⟨sources, loaded, settled, fun roomy => ?_⟩
  have uncut {fuel : Nat} {report : Report} : ¬ sources.CutReport fuel report := by
    rintro ⟨left, earlier, action, execution, cut, tight, _⟩
    obtain ⟨number, rest, before, passes, _⟩ := cut.comes
    exact absurd (roomy left number action rest before passes) (Nat.not_le.mpr tight)
  rcases settled with same | ⟨_, cut⟩ | ⟨_, cut⟩
  · exact same
  · exact absurd cut uncut
  · exact absurd cut uncut

/-- Settings that show the errand instead of storing it. -/
def errandShown : Settings where
  beepers := 2
  delay := 40
  runId := ("shown" : String)
  theme := "dark"

theorem only_sources_decide_errand :
    ∃ report reached reached', run 20 errandSettings errand = .ok report reached ∧
      run 30 errandShown errand = .ok report reached' ∧ report.steps = 3 := by
  have shown : ((run 30 errandShown).value? errand).any (fun report =>
      report.fault ≠ some ⟨.nestingTooDeep, none⟩) = true := by
    decide +kernel
  obtain ⟨report, given, other⟩ := (Option.any_eq_true _ _).mp shown
  obtain ⟨reached, returned⟩ := Job.value?_eq_some.mp value_errand
  obtain ⟨reached', returned'⟩ := Job.value?_eq_some.mp given
  obtain ⟨sources, loaded, same, _⟩ := only_sources_decide 20 30 errandSettings errandShown errand errand _ report
    reached reached' rfl rfl rfl rfl rfl returned returned'
  have uncut {fuel : Nat} {report : Report} (other : report.fault ≠ some ⟨.nestingTooDeep, none⟩) :
      ¬ sources.CutReport fuel report := by
    rintro ⟨left, earlier, action, execution, cut, _, reported⟩
    cases (report_of_cut cut).symm.trans reported
    exact other rfl
  rcases same with rfl | ⟨_, cut⟩ | ⟨_, cut⟩
  · exact ⟨_, reached, reached', returned, returned', rfl⟩
  · exact absurd cut (uncut (by decide))
  · exact absurd cut (uncut (of_decide_eq_true other))

end Session

end GridRobot
