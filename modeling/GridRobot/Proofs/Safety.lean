import GridRobot.Proofs.Declarations
import GridRobot.Proofs.Runs
import GridRobot.Proofs.Staging

namespace GridRobot

/-- Only a missing beeper at a position that is too long to be written cannot be told. -/
theorem World.perform_eq_unwritable {world : World} {action : Action} :
    world.perform action = .error .unwritable ↔
      action = .pickBeeper ∧ world.nextToBeeper = false ∧ world.robot.position.isWritable = false := by
  constructor
  · intro failed
    cases action with
    | turnLeft => cases failed
    | move =>
        rw [perform] at failed
        split at failed <;> cases failed
    | pickBeeper =>
        rw [perform, missingBeeper] at failed
        split at failed
        · cases failed
        · rename_i alone
          split at failed
          · cases failed
          · rename_i long
            exact ⟨rfl, Bool.not_eq_true _ ▸ alone, Bool.not_eq_true _ ▸ long⟩
    | putBeeper =>
        rw [perform] at failed
        split at failed <;> cases failed
  · rintro ⟨rfl, alone, long⟩
    rw [perform, if_neg (by simp [alone]), missingBeeper, if_neg (by simp [long])]

/-- The problems that are left to a well-formed text in the world where a run stops: unknown names, instructions
that call themselves, actions that fail, be it that no beeper is at a position that is too long to be written, and
runs that nest too deeply or do not end. -/
def Stop.Behavioural (world : World) : Stop → Prop
  | .fault found => found.cause.faultClass ∈
      [.unknownStatement, .unknownCondition, .recursiveDefinition, .frontBlocked, .noBeeperHere, .emptyBag]
  | .unwritable => world.nextToBeeper = false ∧ world.robot.position.isWritable = false
  | .nestingTooDeep => True
  | .outOfFuel => True
  | _ => False

theorem Hindrance.behavioural {world : World} {action : Action} {hindrance : Hindrance}
    (failed : world.perform action = .error hindrance) (number : Nat) :
    (hindrance.stop number).Behavioural world := by
  cases hindrance with
  | robot error =>
      cases error <;> simp [stop, Stop.Behavioural, Fault.onLine, Cause.faultClass, RobotError.faultClass]
  | unwritable => exact (World.perform_eq_unwritable.mp failed).2

/-- The only problem with skipping a sound block is behavioural. -/
theorem Block.Sound.behavioural {block : Block} (sound : block.Sound) {left : Nat} {problem : Stop}
    (unread : block.skip left = .error problem) (world : World) : problem.Behavioural world := by
  rcases sound.skip_cases left with ⟨last, skipped⟩ | tooDeep
  · rw [skipped] at unread
    cases unread
  · rw [tooDeep] at unread
    cases unread
    exact trivial

/-- Every body in the registry can be read again with the end of its span as the end of its range. -/
def Registry.Replays (program : Program) (registry : Registry) : Prop :=
  ∀ entry ∈ registry.entries,
    (program.block entry.2.start entry.2.stop (2 : Nat)).skip (Nesting.limit - Nesting.blockCost) =
      .ok entry.2.stop

namespace Program

section
variable {program : Program} {registry known : Registry} {left number stop start : Nat} {block : Block}
  {progress : Progress} {outcome : Outcome}

/-- A body found in the registry is a section that can be skipped. -/
theorem skip_of_replays {name : String} {span : Span} (replays : registry.Replays program)
    (found : registry.find? name = some span) :
    (program.sectionAt span.start span.stop instructionDepth).skip (Nesting.limit - Nesting.blockCost) =
      .ok span.stop := by
  obtain ⟨before, after, entries, _⟩ := List.lookup_eq_some_iff.mp found
  have member : (name, span) ∈ registry.entries := by simp [entries]
  exact (skip_sectionAt_eq_ok span.start_le_stop).mpr ⟨rfl, replays _ member⟩

/-- Accepted declarations leave only bodies that can be read again. -/
theorem Declares.replays (declares : program.Declares stop number registry start known)
    (within : stop ≤ program.length) (replays : registry.Replays program) : known.Replays program := by
  induction declares with
  | start inRange holds => exact replays
  | define holds defined rest inductionHypothesis =>
      apply inductionHypothesis
      obtain ⟨_, _, _, inside, skipped, ordered, rfl⟩ := (define_eq_ok holds).mp defined
      intro entry member
      rcases List.mem_append.mp member with earlier | added
      · exact replays entry earlier
      · obtain rfl := List.mem_singleton.mp added
        exact skip_block_shrink (by decide) (Nat.le_of_lt (Nat.lt_of_le_of_lt ordered inside)) within skipped

/-- Running a sound block whose instructions can be read again has behavioural problems only. -/
theorem Runs.behavioural {problem : Stop} {reached : Progress}
    (runs : program.Runs registry left block progress (.stopped problem reached))
    (replays : registry.Replays program) (sound : block.Sound) : problem.Behavioural reached.world := by
  generalize stopped : Outcome.stopped problem reached = outcome at runs
  induction runs generalizing problem reached with
  | outOfFuel =>
      cases stopped
      exact trivial
  | done => cases stopped
  | broken => exact sound.elim
  | action known performed after afterHypothesis => exact afterHypothesis sound stopped
  | actionFails known failed =>
      cases stopped
      exact Hindrance.behavioural failed _
  | unknownStatement other missing =>
      cases stopped
      simp [Stop.Behavioural, Fault.onLine, Cause.faultClass]
  | selfCall other found calls =>
      cases stopped
      simp [Stop.Behavioural, Fault.onLine, Cause.faultClass]
  | callTooDeep other found sober refused =>
      cases stopped
      exact trivial
  | callStops other found sober entered body bodyHypothesis =>
      exact bodyHypothesis (Block.skip_eq_ok_iff.mp (skip_of_replays replays found)).1 stopped
  | call other found sober entered body after bodyHypothesis afterHypothesis =>
      exact afterHypothesis sound stopped
  | branchUnknown unknown =>
      cases stopped
      simp [Stop.Behavioural, Fault.onLine, Cause.faultClass]
  | branchTooDeep known refused =>
      cases stopped
      exact trivial
  | takenStops holds entered inside insideHypothesis => exact insideHypothesis sound.1 stopped
  | takenUnread holds entered inside unread insideHypothesis =>
      cases stopped
      exact sound.2.1.behavioural unread _
  | taken holds entered inside skipped after insideHypothesis afterHypothesis =>
      exact afterHypothesis sound.2.2 stopped
  | otherUnread fails entered unread =>
      cases stopped
      exact sound.1.behavioural unread _
  | otherStops fails entered skipped inside insideHypothesis => exact insideHypothesis sound.2.1 stopped
  | other fails entered skipped inside after insideHypothesis afterHypothesis =>
      exact afterHypothesis sound.2.2 stopped
  | loopUnknown unknown =>
      cases stopped
      simp [Stop.Behavioural, Fault.onLine, Cause.faultClass]
  | loopTooDeep known refused =>
      cases stopped
      exact trivial
  | loopStops holds entered inside insideHypothesis => exact insideHypothesis sound.1 stopped
  | loopAgain holds entered inside after insideHypothesis afterHypothesis =>
      exact afterHypothesis sound stopped
  | loopUnread fails entered unread =>
      cases stopped
      exact sound.1.behavioural unread _
  | loopEnds fails entered skipped after afterHypothesis => exact afterHypothesis sound.2 stopped
  | iterateTooDeep refused =>
      cases stopped
      exact trivial
  | iterateStops entered inside insideHypothesis => exact insideHypothesis sound.1 stopped
  | iterateAgain entered inside after insideHypothesis afterHypothesis =>
      exact afterHypothesis sound stopped
  | iterateUnread entered unread =>
      cases stopped
      exact sound.1.behavioural unread _
  | iterateEnds entered skipped after afterHypothesis => exact afterHypothesis sound.2 stopped

/-- A stopped run of the execution section is where the whole run stops. -/
theorem stop_execution_eq_some {problem : Stop} (stopped : (outcome.execution known).stop = some problem) :
    ∃ reached, outcome = .stopped problem reached := by
  cases outcome with
  | finished last reached => cases stopped
  | stopped found reached =>
      cases stopped
      exact ⟨reached, rfl⟩

end

section
variable {program : Program} {known : Registry} {start : Nat}

/-- A run of a structurally valid program that does not complete has a behavioural problem. -/
theorem behavioural_of_valid (marked : program.checkMarkers = .ok ())
    (declared : program.declare program.turnoffNumber program.turnoffNumber 1 {} = (.ok start, known))
    (skipped : (program.block (start + 1) program.turnoffNumber executionDepth).skip Nesting.limit =
      .ok program.turnoffNumber) {fuel : Nat} {world : World} {problem : Stop}
    (stopped : (program.run fuel world {}).stop = some problem) :
    problem.Behavioural (program.run fuel world {}).world := by
  have declares := declares_of_declare declared
  have replays : known.Replays program := declares.replays (Nat.sub_le _ _) (by intro entry member; cases member)
  rw [run_of_declare marked declared] at stopped ⊢
  obtain ⟨reached, stopped⟩ := stop_execution_eq_some stopped
  have runs := runs_execute program known fuel Nesting.limit
    (program.sectionAt (start + 1) program.turnoffNumber executionDepth) { world }
  rw [stopped] at runs ⊢
  have sectionSkipped := (skip_sectionAt_eq_ok declares.start_bounds.1).mpr ⟨rfl, skipped⟩
  exact runs.behavioural replays (Block.skip_eq_ok_iff.mp sectionSkipped).1

end

/-- A structurally valid program never fails structurally: in any world, a run that does not complete has
a behavioural problem, or it ends with what a listener raises. In particular every instruction body is accepted again
where it is called. -/
theorem valid_program_fails_behaviourally (program : Program) (start : Nat) (known : Registry) (fuel : Nat)
    (progress : Progress) (marked : program.checkMarkers = .ok ())
    (declared : program.declare program.turnoffNumber program.turnoffNumber 1 {} = (.ok start, known))
    (accepted : program.carryOut known fuel false
      (program.block (start + 1) program.turnoffNumber executionDepth) progress =
        .finished program.turnoffNumber progress) :
    (∀ fuel world problem, (program.run fuel world {}).stop = some problem →
      problem.Behavioural (program.run fuel world {}).world) ∧
    (∀ (α : Type) [Listener α] (fuel : Nat) (world : World) (listeners : List α) (workspace : Workspace)
      (reason : BreakOff),
      (program.watch fuel world {} listeners workspace).reason? = some reason →
        (∃ problem, reason = .problem problem ∧
          problem.Behavioural (program.watch fuel world {} listeners workspace).execution.world) ∨
        ∃ number failure, reason = .ofFailure number failure ∧
          program.IsBrokenOff world {} listeners workspace failure) ∧
    (∀ name span, known.find? name = some span →
      (∀ fuel progress, program.carryOut known fuel false
        (program.sectionAt span.start span.stop instructionDepth) progress = .finished span.stop progress) ∧
      ∀ left, (program.sectionAt span.start span.stop instructionDepth).skip left = .ok span.stop ∨
        (program.sectionAt span.start span.stop instructionDepth).skip left = .error .nestingTooDeep) := by
  have behavioural {fuel world problem} := @behavioural_of_valid program known start marked declared
    (carryOut_eq_finished.mp accepted).2 fuel world problem
  have replays : known.Replays program :=
    (declares_of_declare declared).replays (Nat.sub_le _ _) (by intro entry member; cases member)
  refine ⟨fun _ _ _ => behavioural, ?_, ?_⟩
  · intro α _ fuel world listeners workspace reason broken
    rcases program.watch_cases fuel world {} listeners workspace with ⟨same, unfailing⟩ |
      ⟨number, failure, raises, ended⟩
    · rw [Watched.reason?, unfailing, same, Option.map_eq_some_iff] at broken
      obtain ⟨problem, stopped, rfl⟩ := broken
      rw [same]
      exact Or.inl ⟨problem, rfl, behavioural stopped⟩
    · cases broken.symm.trans ended
      exact Or.inr ⟨number, failure, rfl, raises⟩
  · intro name span found
    obtain ⟨sound, room, ended⟩ := Block.skip_eq_ok_iff.mp (skip_of_replays replays found)
    refine ⟨fun fuel progress => carryOut_eq_finished.mpr ⟨rfl, ?_⟩, fun left => ?_⟩
    · exact Block.skip_eq_ok_iff.mpr ⟨sound, Nat.le_trans room (Nat.sub_le _ _), ended⟩
    · rcases sound.skip_cases left with ⟨last, again⟩ | tooDeep
      · have sameEnd := (Block.skip_eq_ok_iff.mp again).2.2
        rw [ended] at sameEnd
        cases sameEnd
        exact Or.inl again
      · exact Or.inr tooDeep

/-- The declarations of the tour leave one instruction. -/
theorem declare_tour : tour.declare tour.turnoffNumber tour.turnoffNumber 1 {} =
    (.ok 8, ⟨[("turnright", ⟨3, 7, by decide⟩)]⟩) := by rfl

/-- The execution section of the tour is accepted wherever it is tried. -/
theorem accepted_tour (progress : Progress) :
    tour.carryOut ⟨[("turnright", ⟨3, 7, by decide⟩)]⟩ 0 false (tour.block 9 tour.turnoffNumber executionDepth)
      progress = .finished tour.turnoffNumber progress := by
  rw [carryOut_eq_finished]
  exact ⟨rfl, by decide +kernel⟩

theorem valid_program_fails_behaviourally_tour :
    tour.checkMarkers = .ok () ∧
    tour.carryOut ⟨[("turnright", ⟨3, 7, by decide⟩)]⟩ 0 false (tour.block 9 tour.turnoffNumber executionDepth)
      { world := .corridor } = .finished tour.turnoffNumber { world := .corridor } ∧
    (∀ fuel world problem, (tour.run fuel world {}).stop = some problem →
      problem.Behavioural (tour.run fuel world {}).world) :=
  ⟨marked_tour, accepted_tour { world := .corridor },
    (valid_program_fails_behaviourally tour 8 _ 0 { world := .corridor } marked_tour declare_tour
      (accepted_tour { world := .corridor })).1⟩

/-- A recorder that writes every row at once. -/
def eagerRecorder : Recorder where
  path := ⟨.none, ["trace.parquet"]⟩
  runId := ("run" : String)
  threshold := 1

/-- A corridor and a robot that owes more beepers than a cell of a trace can hold. -/
def overdrawnCorridor : World :=
  { World.corridor with robot.bag := -9223372036854775810 }

/-- Before a recorder, the tour does not complete, and there is none of the problems of a well-formed text. -/
theorem recorder_ends_tour :
    tour.checkMarkers = .ok () ∧
      tour.declare tour.turnoffNumber tour.turnoffNumber 1 {} = (.ok 8, ⟨[("turnright", ⟨3, 7, by decide⟩)]⟩) ∧
      tour.carryOut ⟨[("turnright", ⟨3, 7, by decide⟩)]⟩ 0 false (tour.block 9 tour.turnoffNumber executionDepth)
        { world := overdrawnCorridor } = .finished tour.turnoffNumber { world := overdrawnCorridor } ∧
      (tour.watch 20 overdrawnCorridor {} [eagerRecorder] { files := {}, directory := [] }).reason? =
        some (.failure (.overflow .traceCell)) :=
  ⟨marked_tour, declare_tour, accepted_tour { world := overdrawnCorridor }, by decide +kernel⟩

/-- A program that picks a beeper. -/
def gleaning : Program :=
  classify ["BEGINNING-OF-PROGRAM", "\tBEGINNING-OF-EXECUTION", "\t\tpickbeeper;", "\t\tturnoff", "\tEND-OF-EXECUTION",
    "END-OF-PROGRAM"]

/-- A robot whose position has more digits than a number may have that is written. -/
def remoteCorridor : World :=
  { World.corridor with robot.position.x := Int.ofNat (Nat.pow 10 4300) }

example : gleaning.checkMarkers = .ok () ∧ (gleaning.run 5 remoteCorridor {}).stop = some .unwritable := by
  decide +kernel

end Program

end GridRobot
