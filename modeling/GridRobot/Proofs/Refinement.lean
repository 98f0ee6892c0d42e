import GridRobot.Proofs.PrintedDefinitions

namespace GridRobot

namespace Source

/-- Where the parts of a printed program stand. -/
structure Layout (source : Source) (start turnoff : Nat) : Prop where
  opens : source.program.Holds 0 0 .programStart
  definitions : source.program.Continues 1 (source.definitions.flatMap definitionLines)
  start_eq : start = 1 + (source.definitions.flatMap definitionLines).length
  starts : source.program.Holds start 1 .executionStart
  main : source.program.Continues (start + 1) (source.main.lines 2 false)
  turnoff_eq : turnoff = start + 1 + (source.main.lines 2 false).length
  turnsOff : source.program.Holds turnoff 2 .turnoff
  ends : source.program.Holds (turnoff + 1) 1 .executionEnd
  closes : source.program.Holds (turnoff + 2) 0 .programEnd
  size : source.program.length = turnoff + 3

theorem layout (source : Source) : ∃ start turnoff, source.Layout start turnoff := by
  have whole : source.program.Continues 0 source.lines := List.prefix_refl _
  have size : source.program.length = source.lines.length := List.length_map ..
  rw [lines] at whole size
  simp only [List.length_cons, List.length_append, List.length_nil] at size
  obtain ⟨opens, rest⟩ := Program.continues_cons.mp whole
  obtain ⟨definitions, rest⟩ := Program.continues_append.mp rest
  obtain ⟨starts, rest⟩ := Program.continues_cons.mp rest
  obtain ⟨main, rest⟩ := Program.continues_append.mp rest
  obtain ⟨turnsOff, rest⟩ := Program.continues_cons.mp rest
  obtain ⟨ends, rest⟩ := Program.continues_cons.mp rest
  obtain ⟨closes, _⟩ := Program.continues_cons.mp rest
  refine ⟨_, _, ⟨.of_prints Line.prints_programStart opens, definitions, rfl,
    .of_prints Line.prints_executionStart starts, main, rfl, .of_prints Line.prints_turnoff turnsOff,
    .of_prints Line.prints_executionEnd ends, .of_prints Line.prints_programEnd closes, ?_⟩⟩
  rw [size]
  omega

section
variable {source : Source} {start turnoff : Nat}

/-- The printed lines of a program open and close blocks in pairs. -/
theorem balanced_lines (valid : source.Valid) : Program.Balanced source.lines := by
  have definitions : Program.Balanced (source.definitions.flatMap definitionLines) := by
    refine .flatMap fun definition member => ?_
    have named := (valid.named definition member).1
    exact .cons (Line.prints_define (by decide) named) (by simp [LineKind.isClosing])
      (.enclosed (by decide) (.code (by decide) (valid.bodies definition member)))
  have main : Program.Balanced (source.main.lines 2 false) := .code (by decide) valid.main
  have footer : Program.Balanced
      [Line.printed 2 "turnoff", Line.printed 1 "END-OF-EXECUTION", Line.printed 0 "END-OF-PROGRAM"] :=
    .cons Line.prints_turnoff (by decide) (.cons Line.prints_executionEnd (by decide)
      (.cons Line.prints_programEnd (by decide) .nil))
  exact .cons Line.prints_programStart (by decide)
    (definitions.append (.cons Line.prints_executionStart (by decide) (main.append footer)))

/-- There are no more definitions than lines. -/
theorem length_le_flatMap (definitions : List (String × Code)) :
    definitions.length ≤ (definitions.flatMap definitionLines).length := by
  induction definitions with
  | nil => exact Nat.le_refl 0
  | cons definition definitions inductionHypothesis =>
      simp only [List.flatMap_cons, definitionLines, List.length_cons, List.length_append]
      omega

/-- A printed program has all its markers, and its blocks open and close in pairs. -/
theorem Layout.checkMarkers (layout : source.Layout start turnoff) (valid : source.Valid) :
    source.program.checkMarkers = .ok () := by
  have skeleton : source.program.checkSkeleton = .ok () := by
    have opens := Program.hasKindAt_of_holds layout.opens
    have turnsOff := Program.hasKindAt_of_holds layout.turnsOff
    have ends := Program.hasKindAt_of_holds layout.ends
    have closes := Program.hasKindAt_of_holds layout.closes
    simp only [Program.checkSkeleton, layout.size]
    rw [if_neg (by omega), show turnoff + 3 - 1 = turnoff + 2 by omega,
      show turnoff + 3 - 2 = turnoff + 1 by omega, show turnoff + 3 - 3 = turnoff by omega]
    simp [opens, turnsOff, ends, closes]
  have balance : source.program.checkBalance = .ok () := by
    have passed := balanced_lines valid [] 0 []
    rw [List.append_nil] at passed
    exact passed
  rw [Program.checkMarkers, skeleton]
  simp only [balance]

/-- The definitions of a printed program are announced behind its first line. -/
theorem Layout.announces (layout : source.Layout start turnoff) (valid : source.Valid) :
    source.program.Announces 1 start turnoff source.definitions {} := by
  have inRange : start < turnoff := by
    have place := layout.turnoff_eq
    omega
  have covered : turnoff ≤ source.program.length := by
    rw [layout.size]
    omega
  exact ⟨fun definition member => (valid.named definition member).1, valid.new, valid.bodies, valid.distinct,
    fun _ _ => rfl, layout.definitions, layout.start_eq, layout.starts, inRange, covered⟩

/-- The execution section of a printed program is read as its main block. -/
theorem Layout.shows (layout : source.Layout start turnoff) (valid : source.Valid) :
    (source.program.sectionAt (start + 1) turnoff Program.executionDepth).Shows source.main := by
  have follows : source.program.Follows turnoff false := by
    obtain ⟨line, present, kind, _⟩ := layout.turnsOff
    exact ⟨line, present, by simp [kind, LineKind.isClosing], by simp [kind]⟩
  have covered : turnoff ≤ source.program.length := by
    rw [layout.size]
    omega
  obtain ⟨shows, ended⟩ := Program.Written.shows covered (Nat.le_refl 2) valid.main
    ⟨layout.main, layout.turnoff_eq, follows, Program.block_of_le (Nat.le_refl turnoff), Nat.le_refl turnoff⟩
  rw [← Program.sectionAt_of_ending ended] at shows
  exact shows

theorem Layout.turnoffNumber (layout : source.Layout start turnoff) : source.program.turnoffNumber = turnoff := by
  rw [Program.turnoffNumber, layout.size]
  omega

theorem Layout.length_lt (layout : source.Layout start turnoff) : source.definitions.length < turnoff := by
  have fewer := length_le_flatMap source.definitions
  have place := layout.turnoff_eq
  have place' := layout.start_eq
  omega

end

/-- With room for all bodies, a run of a printed program is a run of its main block. -/
theorem run_of_le {source : Source} (valid : source.Valid)
    (room : readingNesting source.definitions ≤ Nesting.limit) :
    ∃ registry steps, source.program.Implements registry source.definitions ∧ steps.Shows source.main ∧
      ∀ fuel world, source.program.run fuel world {} =
        (source.program.execute registry fuel Nesting.limit steps { world }).execution registry := by
  obtain ⟨start, turnoff, layout⟩ := source.layout
  obtain ⟨entries, declared, recorded⟩ := (layout.announces valid).declare_of_le room layout.length_lt
  refine ⟨_, _, .of_records recorded, layout.shows valid, fun fuel world => ?_⟩
  have declared' : source.program.declare source.program.turnoffNumber source.program.turnoffNumber 1 {} =
      (.ok start, ⟨entries⟩) := by
    rw [layout.turnoffNumber]
    exact declared
  rw [Program.run_of_declare (layout.checkMarkers valid) declared', layout.turnoffNumber]

/-- Without room for all bodies, a run of a printed program nests too deeply. -/
theorem run_of_lt {source : Source} (valid : source.Valid)
    (tight : Nesting.limit < readingNesting source.definitions) (fuel : Nat) (world : World) :
    (source.program.run fuel world {}).stop = some .nestingTooDeep := by
  obtain ⟨start, turnoff, layout⟩ := source.layout
  obtain ⟨known, declared⟩ := (layout.announces valid).declare_of_lt tight layout.length_lt
  rw [Program.run, layout.checkMarkers valid, layout.turnoffNumber]
  simp only [declared]

end Source

/-- The run has the effect; its error is the mishap that stopped it. -/
def Execution.Reports (execution : Execution) (effect : Effect) : Prop :=
  execution.actions = effect.actions ∧ execution.world = effect.world ∧
    match effect.error with
    | none => execution.stop = none
    | some mishap => execution.stop.bind Mishap.ofStop? = some mishap

theorem Execution.Reports.unique {execution : Execution} {effect effect' : Effect}
    (reports : execution.Reports effect) (reports' : execution.Reports effect') : effect = effect' := by
  obtain ⟨actions, world, error⟩ := effect
  obtain ⟨actions', world', error'⟩ := effect'
  obtain ⟨rfl, rfl, stopped⟩ := reports
  obtain ⟨rfl, rfl, stopped'⟩ := reports'
  have same : error = error' := by
    cases error with
    | none =>
        cases error' with
        | none => rfl
        | some mishap' =>
            simp only at stopped stopped'
            rw [stopped] at stopped'
            cases stopped'
    | some mishap =>
        cases error' with
        | none =>
            simp only at stopped stopped'
            rw [stopped'] at stopped
            cases stopped
        | some mishap' => exact stopped.symm.trans stopped'
  rw [same]

theorem Execution.Reports.stop_ne {execution : Execution} {effect : Effect} (reports : execution.Reports effect) :
    execution.stop ≠ some .outOfFuel ∧ execution.stop ≠ some .nestingTooDeep := by
  obtain ⟨actions, world, error⟩ := effect
  obtain ⟨_, _, stopped⟩ := reports
  constructor
  all_goals
    intro same
    rw [same] at stopped
    cases error with
    | none => cases stopped
    | some mishap => cases stopped

namespace Outcome

variable {outcome : Outcome} {effect : Effect}

/-- An outcome that shows an effect is a run that reports it. -/
theorem Shows.reports (shows : outcome.Shows [] effect) (registry : Registry) :
    (outcome.execution registry).Reports effect := by
  obtain ⟨actions, world, error⟩ := effect
  cases error with
  | none =>
      obtain ⟨number, rfl⟩ := shows
      simp [Outcome.execution, Effect.progress, Execution.Reports]
  | some mishap =>
      obtain ⟨number, rfl⟩ := shows
      simp [Outcome.execution, Effect.progress, Execution.Reports, Mishap.ofStop?_stop]

/-- An outcome that shows an effect has ended. -/
theorem Shows.ended {earlier : List Action} (shows : outcome.Shows earlier effect) : outcome.Ended := by
  obtain ⟨actions, world, error⟩ := effect
  cases error with
  | none =>
      obtain ⟨number, rfl⟩ := shows
      exact trivial
  | some mishap =>
      obtain ⟨number, rfl⟩ := shows
      cases mishap <;> exact nofun

/-- An outcome is regular unless the run stops for fuel or for nesting. -/
theorem regular_or (outcome : Outcome) (registry : Registry) :
    (outcome.execution registry).stop = some .outOfFuel ∨
      (outcome.execution registry).stop = some .nestingTooDeep ∨ outcome.Regular := by
  cases outcome with
  | finished number progress => exact Or.inr (Or.inr trivial)
  | stopped problem progress =>
      by_cases fuel : problem = .outOfFuel
      · exact Or.inl (congrArg some fuel)
      · by_cases nesting : problem = .nestingTooDeep
        · exact Or.inr (Or.inl (congrArg some nesting))
        · exact Or.inr (Or.inr ⟨fuel, nesting⟩)

end Outcome

namespace Source

/-- With enough fuel the run of the printed program in a new registry reports the effect. -/
def Ends (source : Source) (world : World) (effect : Effect) : Prop :=
  ∃ enough, ∀ fuel, (source.program.run (enough + fuel) world {}).Reports effect

section
variable {source : Source} {world : World} {nesting : Nat} {effect : Effect}

/-- A run of a printed program stops for fuel or for nesting, or it reports an evaluation. -/
theorem run_cases (valid : source.Valid) (fuel : Nat) (world : World) :
    (source.program.run fuel world {}).stop = some .outOfFuel ∨
      (source.program.run fuel world {}).stop = some .nestingTooDeep ∨
      ∃ nesting effect, nesting ≤ Nesting.limit ∧ source.Evaluates world nesting effect ∧
        (source.program.run fuel world {}).Reports effect := by
  by_cases room : readingNesting source.definitions ≤ Nesting.limit
  · obtain ⟨registry, steps, implements, shows, ran⟩ := run_of_le valid room
    rw [ran fuel world]
    have runs := Program.runs_execute source.program registry fuel Nesting.limit steps { world }
    generalize source.program.execute registry fuel Nesting.limit steps { world } = outcome at runs
    rcases outcome.regular_or registry with fuelled | deep | regular
    · exact Or.inl fuelled
    · exact Or.inr (Or.inl deep)
    · obtain ⟨used, effect, enough, evaluates, shown⟩ := runs.evaluates implements shows regular
      exact Or.inr (Or.inr ⟨_, effect, Nat.max_le.mpr ⟨room, enough⟩, ⟨used, evaluates, rfl⟩,
        shown.reports registry⟩)
  · exact Or.inr (Or.inl (run_of_lt valid (Nat.lt_of_not_le room) fuel world))

/-- What a run of a printed program reports is an evaluation with room for its nesting. -/
theorem evaluates_of_reports {fuel : Nat} (valid : source.Valid)
    (reports : (source.program.run fuel world {}).Reports effect) :
    ∃ nesting, nesting ≤ Nesting.limit ∧ source.Evaluates world nesting effect := by
  rcases run_cases valid fuel world with fuelled | deep | ⟨nesting, effect', room, evaluates, reports'⟩
  · exact absurd fuelled reports.stop_ne.1
  · exact absurd deep reports.stop_ne.2
  · rw [reports.unique reports']
    exact ⟨nesting, room, evaluates⟩

/-- An evaluation with room for its nesting is what the run of the printed program ends with. -/
theorem Evaluates.ends (evaluates : source.Evaluates world nesting effect) (valid : source.Valid)
    (room : nesting ≤ Nesting.limit) : source.Ends world effect := by
  obtain ⟨used, evaluates, rfl⟩ := evaluates
  obtain ⟨room, roomUsed⟩ := Nat.max_le.mp room
  obtain ⟨registry, steps, implements, shows, ran⟩ := run_of_le valid room
  obtain ⟨outcome, runs, shown⟩ := Program.runs_of_evaluates implements evaluates shows roomUsed
  obtain ⟨enough, settled⟩ := runs.settles shown.ended
  refine ⟨enough, fun fuel => ?_⟩
  rw [ran, settled]
  exact shown.reports registry

/-- An evaluation without room for its nesting is a run that nests too deeply. -/
theorem Evaluates.tooDeep (evaluates : source.Evaluates world nesting effect) (valid : source.Valid)
    (tight : Nesting.limit < nesting) :
    ∃ enough, ∀ fuel, (source.program.run (enough + fuel) world {}).stop = some .nestingTooDeep := by
  obtain ⟨used, evaluates, rfl⟩ := evaluates
  by_cases room : readingNesting source.definitions ≤ Nesting.limit
  · obtain ⟨registry, steps, implements, shows, ran⟩ := run_of_le valid room
    obtain ⟨reached, runs⟩ := Program.runs_tooDeep_of_evaluates implements evaluates shows
      (show Nesting.limit < used by omega)
    obtain ⟨enough, settled⟩ := runs.settles nofun
    refine ⟨enough, fun fuel => ?_⟩
    rw [ran, settled]
    rfl
  · exact ⟨0, fun fuel => run_of_lt valid (Nat.lt_of_not_le room) _ world⟩

end

/-- The run of a printed program ends with an effect exactly if the program evaluates to it by its
structure and there is room for the nesting of the evaluation. An evaluation without that room is a run
that nests too deeply, and a run never stops for another reason than these or a lack of fuel. -/
theorem run_ends_iff_evaluates (source : Source) (valid : source.Valid) (world : World) :
    (∀ effect, source.Ends world effect ↔
      ∃ nesting, nesting ≤ Nesting.limit ∧ source.Evaluates world nesting effect) ∧
    (∀ nesting effect, source.Evaluates world nesting effect → Nesting.limit < nesting →
      ∃ enough, ∀ fuel, (source.program.run (enough + fuel) world {}).stop = some .nestingTooDeep) ∧
    ∀ fuel, (source.program.run fuel world {}).stop = some .outOfFuel ∨
      (source.program.run fuel world {}).stop = some .nestingTooDeep ∨
      ∃ nesting effect, nesting ≤ Nesting.limit ∧ source.Evaluates world nesting effect ∧
        (source.program.run fuel world {}).Reports effect := by
  refine ⟨fun effect => ⟨?_, ?_⟩, fun nesting effect evaluates => evaluates.tooDeep valid,
    fun fuel => run_cases valid fuel world⟩
  · rintro ⟨enough, reports⟩
    exact evaluates_of_reports valid (reports 0)
  · rintro ⟨nesting, room, evaluates⟩
    exact evaluates.ends valid room

/-- An abstract program with an instruction, a loop and a branch with an alternative. -/
def tour : Source where
  definitions := [("turnright", .iterate 3 (.statement "turnleft" .done) .done)]
  main :=
    .loop "front-is-clear" (.statement "move" .done)
      (.choice "next-to-a-beeper" (.statement "pickbeeper" .done) (.statement "turnright" .done) .done)

theorem valid_tour : tour.Valid := by decide

/-- What the tour does in a corridor. -/
def tourEffect : Effect where
  actions := [.move, .turnLeft, .turnLeft, .turnLeft]
  world := { World.corridor with robot := ⟨⟨1, 0⟩, .south, 0⟩, steps := 4 }

theorem run_ends_iff_evaluates_tour :
    tour.Valid ∧ ∃ nesting, nesting ≤ Nesting.limit ∧ tour.Evaluates World.corridor nesting tourEffect := by
  have ran : tour.program.run 20 World.corridor {} =
      { world := tourEffect.world
        actions := tourEffect.actions
        registry := ⟨[("turnright", ⟨3, 7, by decide⟩)]⟩ } := by
    decide +kernel
  have reports : (tour.program.run 20 World.corridor {}).Reports tourEffect := by
    rw [ran]
    exact ⟨rfl, rfl, rfl⟩
  rcases (run_ends_iff_evaluates tour valid_tour World.corridor).2.2 20 with
    fuelled | deep | ⟨nesting, effect, room, evaluates, reports'⟩
  · exact absurd fuelled reports.stop_ne.1
  · exact absurd deep reports.stop_ne.2
  · rw [reports.unique reports']
    exact ⟨valid_tour, nesting, room, evaluates⟩

end Source

end GridRobot
