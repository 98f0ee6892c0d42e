import GridRobot.Proofs.Levels
import GridRobot.Proofs.Points
import GridRobot.Proofs.Safety
import GridRobot.Report

namespace GridRobot

/-- The action that fails with an error. -/
def RobotError.action : RobotError → Action
  | .frontBlocked => .move
  | .noBeeperHere _ => .pickBeeper
  | .emptyBag => .putBeeper

/-- Each error belongs to one action. -/
theorem World.action_of_perform {world : World} {action : Action} {error : RobotError}
    (failed : world.perform action = .error (.robot error)) : error.action = action := by
  cases action with
  | turnLeft => cases failed
  | move =>
      rw [perform] at failed
      split at failed
      · cases failed
        rfl
      · cases failed
  | pickBeeper =>
      rw [perform, missingBeeper] at failed
      split at failed
      · cases failed
      · split at failed
        · cases failed
          rfl
        · cases failed
  | putBeeper =>
      rw [perform] at failed
      split at failed
      · cases failed
      · cases failed
        rfl

/-- Only names that are not in the table have no answer. -/
theorem Condition.not_mem_of_ask? {world : World} {name : String} (unknown : world.ask? name = none) :
    name ∉ table.map Prod.fst := by
  rw [World.ask?, Option.map_eq_none_iff, ofName?, List.lookup_eq_none_iff] at unknown
  intro member
  obtain ⟨entry, listed, same⟩ := List.mem_map.mp member
  have different := unknown entry listed
  rw [same] at different
  simp at different

namespace Program

/-- What a fault says about the line that it names: who is guilty of it when the run has ended. -/
def Guilty (program : Program) (world : World) (execution : Execution) (number : Nat) (line : Line) :
    Cause → Prop
  | .robot error =>
    (∃ terminated, line.kind = .statement error.action.name terminated) ∧
      execution.world.perform error.action = .error (.robot error) ∧
      ∃ left rest, program.Passes world {}
        ⟨left, .statement number error.action.name rest, execution.progress⟩
  | .unknownCondition condition =>
    (line.kind = .branch condition ∨ line.kind = .loop condition) ∧ condition ∉ Condition.table.map Prod.fst
  | .unknownStatement name =>
    (∃ terminated, line.kind = .statement name terminated) ∧ Action.ofName? name = none ∧
      execution.registry.find? name = none
  | .selfCall name =>
    (∃ terminated, line.kind = .statement name terminated) ∧
      ∃ span, execution.registry.find? name = some span ∧ span.start ≤ number ∧ number < span.stop
  | .builtInName name => line.kind = .define name ∧ (Action.ofName? name).isSome = true
  | .takenName name =>
    line.kind = .define name ∧ ∃ earlier span, earlier < number ∧
      program.hasKindAt earlier (.define name) = true ∧ execution.registry.find? name = some span ∧
      span.start = earlier + 2
  | cause => cause.faultClass = .structural ∨ cause.faultClass = .terminator

/-- Why a run can stop: a fault of one of its lines, a count with too many digits, a beeper that is missing at a
position that is too long to be written, too deep nesting, or the end of its fuel. -/
inductive Explains (program : Program) (world : World) (execution : Execution) : Stop → Prop where
  | fault {cause : Cause} {number : Nat} {line : Line} (present : program[number]? = some line)
      (guilty : program.Guilty world execution number line cause) :
      Explains program world execution (.fault (.onLine cause number))
  | digits {number : Nat} {digits : String} (holds : program.hasKindAt number (.iterate digits) = true)
      (long : Numeral.maxDigits < Numeral.countDigits digits.toList) :
      Explains program world execution (.tooManyDigits (Numeral.countDigits digits.toList))
  | unwritable {number : Nat} {terminated : Bool}
      (holds : program.hasKindAt number (.statement Action.pickBeeper.name terminated) = true)
      (failed : execution.world.perform .pickBeeper = .error .unwritable) :
      Explains program world execution .unwritable
  | nestingTooDeep : Explains program world execution .nestingTooDeep
  | outOfFuel : Explains program world execution .outOfFuel

section
variable {program : Program} {world : World} {execution : Execution} {registry extended known : Registry}
  {name : String} {number stop last start left : Nat} {problem : Stop} {point later : Point}

/-- A line is guilty of every structural fault. -/
theorem guilty_of_structural {line : Line} {cause : Cause}
    (structural : cause.faultClass = .structural ∨ cause.faultClass = .terminator) :
    program.Guilty world execution number line cause := by
  cases cause with
  | robot error => cases error <;> simp [Cause.faultClass, RobotError.faultClass] at structural
  | unknownCondition condition => simp [Cause.faultClass] at structural
  | unknownStatement name => simp [Cause.faultClass] at structural
  | selfCall name => simp [Cause.faultClass] at structural
  | builtInName name => simp [Cause.faultClass] at structural
  | takenName name => simp [Cause.faultClass] at structural
  | _ => exact structural

theorem Rejects.explains (rejects : program.Rejects problem) : program.Explains world execution problem := by
  cases rejects with
  | fault inside structural => exact .fault (List.getElem?_eq_getElem inside) (guilty_of_structural structural)
  | digits holds long => exact .digits holds long

/-- Skipping stops for what is wrong with the text, or for its nesting. -/
theorem explains_of_skip {block : Block} (follows : block.Follows program)
    (unread : block.skip left = .error problem) : program.Explains world execution problem := by
  rcases follows.rejects_of_skip unread with rejects | rfl
  · exact rejects.explains
  · exact .nestingTooDeep

/-- An entry of the registry comes from a definition above a line: its body starts two lines below the
header, and ends with as many blocks open as at its start. -/
structure Defined (program : Program) (number : Nat) (entry : String × Span) : Prop where
  header : ∃ earlier, earlier < number ∧ program.hasKindAt earlier (.define entry.1) = true ∧
    entry.2.start = earlier + 2
  within : entry.2.stop ≤ program.length
  level : program.level entry.2.stop = program.level entry.2.start

theorem Defined.below {entry : String × Span} (defined : program.Defined number entry) (later : number ≤ last) :
    program.Defined last entry := by
  obtain ⟨⟨earlier, above, holds⟩, within, level⟩ := defined
  exact ⟨⟨earlier, by omega, holds⟩, within, level⟩

/-- Names that are found come from definitions. -/
theorem defined_of_find? {span : Span} (defined : ∀ entry ∈ registry.entries, program.Defined number entry)
    (found : registry.find? name = some span) : program.Defined number (name, span) := by
  obtain ⟨before, after, entries, _⟩ := List.lookup_eq_some_iff.mp found
  exact defined _ (by simp [entries])

/-- The body of a definition. -/
theorem closes_define {first : Nat} (within : stop ≤ program.length)
    (holds : program.hasKindAt number (.define name) = true)
    (opened : program.openBlock .define number stop definitionDepth = .ok first) :
    program.Closes stop number
      (closeBody .define number stop (program.block first stop (definitionDepth + 1))) :=
  closes_closeBody holds rfl opened fun _ _ inside => reads_block inside within

/-- A definition that is accepted leaves the level as it is and adds its own entry. -/
theorem defined_of_define (within : stop ≤ program.length)
    (holds : program.Holds number 1 (.define name))
    (accepted : program.define number stop registry = .ok (last, extended))
    (defined : ∀ entry ∈ registry.entries, program.Defined number entry) :
    number < last ∧ last < stop ∧ program.level (last + 1) = program.level number ∧
      ∀ entry ∈ extended.entries, program.Defined (last + 1) entry := by
  obtain ⟨_, _, opening, inRange, skipped, ordered, rfl⟩ := (define_eq_ok holds).mp accepted
  have headed := hasKindAt_of_holds holds
  have opened : program.openBlock .define number stop definitionDepth = .ok (number + 2) :=
    openBlock_holds (by omega) opening
  have ended := (Block.skip_eq_ok_iff.mp skipped).2.2
  obtain ⟨_, _, same⟩ := (closes_define within headed opened).ends last (ending_closeBody_eq_ok.mpr ⟨ended, inRange⟩)
  refine ⟨by omega, inRange, same, ?_⟩
  intro entry member
  rcases List.mem_append.mp member with earlier | added
  · exact (defined entry earlier).below (by omega)
  · obtain rfl := List.mem_singleton.mp added
    have level := ((reads_block (by omega) within).ends last ended).1
    exact ⟨⟨number, by omega, headed, rfl⟩, by simp only; omega, level⟩

/-- The lines in front of the execution section leave no block open. -/
theorem Declares.defined (declares : program.Declares stop number registry start known)
    (within : stop ≤ program.length) (defined : ∀ entry ∈ registry.entries, program.Defined number entry) :
    program.level start = program.level number ∧ ∀ entry ∈ known.entries, program.Defined start entry := by
  induction declares with
  | start inRange holds => exact ⟨rfl, defined⟩
  | define holds accepted rest inductionHypothesis =>
      obtain ⟨_, _, same, extended⟩ := defined_of_define within holds accepted defined
      obtain ⟨level, known⟩ := inductionHypothesis extended
      exact ⟨level.trans same, known⟩

/-- A name that is not available is built in or comes from a definition above. -/
theorem explains_of_checkAvailable {fault : Fault} (defined : ∀ entry ∈ registry.entries, program.Defined number entry)
    (same : execution.registry = registry) (holds : program.hasKindAt number (.define name) = true)
    (refused : registry.checkAvailable name (some (number + 1)) = .error fault) :
    program.Explains world execution (.fault fault) := by
  obtain ⟨line, present, kind⟩ := hasKindAt_iff.mp holds
  rw [Registry.checkAvailable] at refused
  split at refused
  · rename_i builtIn
    cases refused
    exact .fault present ⟨kind, builtIn⟩
  · split at refused
    · rename_i taken
      cases refused
      obtain ⟨span, found⟩ := Option.isSome_iff_exists.mp taken
      obtain ⟨⟨earlier, above, headed, start⟩, _, _⟩ := defined_of_find? defined found
      refine .fault present ⟨kind, earlier, span, above, headed, ?_, start⟩
      rw [same]
      exact found
    · cases refused

/-- A definition is refused for its name, or for its text. -/
theorem explains_of_define (inRange : number < stop) (within : stop ≤ program.length)
    (defined : ∀ entry ∈ registry.entries, program.Defined number entry)
    (low : program.level stop ≤ program.level number) (same : execution.registry = registry)
    (holds : program.hasKindAt number (.define name) = true)
    (refused : program.define number stop registry = .error problem) :
    program.Explains world execution problem := by
  obtain ⟨line, present, kind⟩ := hasKindAt_iff.mp holds
  simp only [define, present, kind, LineKind.argument?, LineKind.header?, Option.getD_some] at refused
  split at refused
  · rename_i fault unavailable
    cases refused
    exact explains_of_checkAvailable defined same holds unavailable
  · rename_i available
    split at refused
    · rename_i unopened
      cases refused
      exact (rejects_of_openBlock inRange within unopened).explains
    · rename_i first opened
      have closes := closes_define within holds opened
      split at refused
      · rename_i unread
        cases refused
        exact explains_of_skip (closes.follows low) unread
      · rename_i last skipped
        split at refused
        · simp only [Registry.define, available] at refused
          cases refused
        · rename_i disordered
          obtain ⟨room, rfl, _⟩ := openBlock_eq_ok.mp opened
          obtain ⟨skipped, _⟩ := skip_closeBody_eq_ok.mp skipped
          obtain ⟨_, _, ended⟩ := Block.skip_eq_ok_iff.mp skipped
          exact absurd (ending_block_bounds (by omega) ended).1 disordered

/-- Declarations are refused for a definition, or for a line that is none. -/
theorem explains_of_declare {fuel : Nat} (within : stop < program.length)
    (defined : ∀ entry ∈ registry.entries, program.Defined number entry)
    (low : program.level stop ≤ program.level number) (same : execution.registry = known)
    (refused : program.declare stop fuel number registry = (.error problem, known)) :
    program.Explains world execution problem := by
  have structural {cause : Cause} {place : Nat} (inside : place < program.length)
      (kind : cause.faultClass = .structural) :
      program.Explains world execution (.fault (.onLine cause place)) :=
    .fault (List.getElem?_eq_getElem inside) (guilty_of_structural (Or.inl kind))
  -- Each accepted definition leaves the level as it was and only adds entries of lines above the next one.
  induction fuel generalizing number registry with
  | zero =>
      cases refused
      exact structural within rfl
  | succ fuel inductionHypothesis =>
      rw [declare] at refused
      split at refused
      · cases refused
        exact structural within rfl
      · rename_i inRange
        rw [List.getElem?_eq_getElem (by omega)] at refused
        have present : program[number]? = some program[number] := List.getElem?_eq_getElem (by omega)
        simp only at refused
        split at refused
        · rename_i fault unaligned
          cases refused
          have rejects : program.Rejects (.fault fault) := Line.rejects_of_checkIndent (by omega) unaligned
          exact rejects.explains
        · rename_i indented
          rw [Line.checkIndent_eq_ok] at indented
          split at refused
          · rename_i name kind
            have holds : program.Holds number 1 (.define name) :=
              ⟨_, present, kind, of_decide_eq_true indented⟩
            split at refused
            · rename_i unaccepted
              cases refused
              exact explains_of_define (by omega) (by omega) defined low same
                (hasKindAt_iff.mpr ⟨_, present, kind⟩) unaccepted
            · rename_i last extended accepted
              obtain ⟨_, _, level, extended⟩ := defined_of_define (by omega) holds accepted defined
              exact inductionHypothesis extended (by omega) refused
          · cases refused
          · cases refused
            exact structural (by omega) rfl

/-- The line that is found to call its own instruction is a line of the body. -/
theorem selfCall?_eq_some {guilty : Nat} {span : Span} (calls : program.selfCall? name span = some guilty) :
    span.start ≤ guilty ∧ guilty < span.stop ∧
      ∃ terminated, program.hasKindAt guilty (.statement name terminated) = true := by
  rw [selfCall?, Option.map_eq_some_iff] at calls
  obtain ⟨offset, found, rfl⟩ := calls
  obtain ⟨inside, calling, _⟩ := List.findIdx?_eq_some_iff_getElem.mp found
  have ordered := span.start_le_stop
  simp only [List.length_take, List.length_drop, Span.length] at inside
  refine ⟨by omega, by omega, ?_⟩
  rw [List.getElem_take, List.getElem_drop, Program.calls] at calling
  split at calling
  · rename_i called terminated kind
    obtain rfl : called = name := of_decide_eq_true calling
    exact ⟨terminated, hasKindAt_iff.mpr ⟨_, List.getElem?_eq_getElem (by omega), kind⟩⟩
  · cases calling

/-- The bodies of defined instructions follow the text. -/
theorem Defined.follows {entry : String × Span} (defined : program.Defined number entry) :
    (program.sectionAt entry.2.start entry.2.stop instructionDepth).Follows program :=
  follows_sectionAt entry.2.start_le_stop defined.within (Int.le_of_eq defined.level)

theorem hereditary_follows (program : Program) : Hereditary (Block.Follows program) where
  statement := fun follows => follows.2
  branch := fun follows => follows.2
  loop := fun follows => follows.2
  iterate := fun follows => ⟨follows.1, follows.2, fun _ => follows⟩

/-- All that is left to run at a point follows the text if it does at an earlier point. -/
theorem Visits.follows (defined : ∀ entry ∈ registry.entries, program.Defined number entry)
    (visits : program.Visits registry point later) (follows : point.block.Follows program) :
    later.block.Follows program := by
  apply visits.hereditary (hereditary_follows program) _ follows
  intro name span found
  exact (defined_of_find? defined found).follows

/-- An action that is hindered is explained by its line. -/
theorem explains_of_hindrance {action : Action} {hindrance : Hindrance} {terminated : Bool} {rest : Block}
    (holds : program.hasKindAt number (.statement action.name terminated) = true)
    (failed : execution.progress.world.perform action = .error hindrance)
    (passes : program.Passes world {} ⟨left, .statement number action.name rest, execution.progress⟩) :
    program.Explains world execution (hindrance.stop number) := by
  obtain ⟨line, present, kind⟩ := hasKindAt_iff.mp holds
  cases hindrance with
  | robot error =>
      obtain rfl := World.action_of_perform failed
      exact .fault present ⟨⟨terminated, kind⟩, failed, _, _, passes⟩
  | unwritable =>
      obtain ⟨rfl, _⟩ := World.perform_eq_unwritable.mp failed
      exact .unwritable holds failed

/-- A problem that a point raises is explained by the line of its step. -/
theorem Raises.explains {progress : Progress} (raises : program.Raises registry point problem progress)
    (passes : program.Passes world {} point) (follows : point.block.Follows program)
    (reached : execution.progress = progress) (same : execution.registry = registry) :
    program.Explains world execution problem := by
  cases raises with
  | outOfFuel => exact .outOfFuel
  | tooDeep refused => exact .nestingTooDeep
  | broken => exact follows.explains
  | actionFails known failed =>
      obtain ⟨⟨terminated, holds⟩, _⟩ := follows
      obtain rfl := Action.name_of_ofName? known
      rw [← reached] at failed passes
      exact explains_of_hindrance holds failed passes
  | unknownStatement other missing =>
      obtain ⟨⟨terminated, holds⟩, _⟩ := follows
      obtain ⟨line, present, kind⟩ := hasKindAt_iff.mp holds
      rw [← same] at missing
      exact .fault present ⟨⟨terminated, kind⟩, other, missing⟩
  | selfCall found calls =>
      obtain ⟨behind, before, terminated, holds⟩ := selfCall?_eq_some calls
      obtain ⟨line, present, kind⟩ := hasKindAt_iff.mp holds
      rw [← same] at found
      exact .fault present ⟨⟨terminated, kind⟩, _, found, behind, before⟩
  | unknownBranch unknown =>
      obtain ⟨line, present, kind⟩ := hasKindAt_iff.mp follows.1
      exact .fault present ⟨Or.inl kind, Condition.not_mem_of_ask? unknown⟩
  | unknownLoop unknown =>
      obtain ⟨line, present, kind⟩ := hasKindAt_iff.mp follows.1
      exact .fault present ⟨Or.inr kind, Condition.not_mem_of_ask? unknown⟩
  | alternativeUnread entered inside unread => exact explains_of_skip follows.2.2.1 unread
  | branchUnread entered unread => exact explains_of_skip follows.2.1 unread
  | loopUnread entered unread => exact explains_of_skip follows.2.1 unread
  | iterateUnread entered unread => exact explains_of_skip follows.1 unread

/-- Where the declarations of a program are accepted, its execution section follows the text, and its
registry holds what they define. -/
theorem follows_of_declare (marked : program.checkMarkers = .ok ())
    (declared : program.declare program.turnoffNumber program.turnoffNumber 1 {} = (.ok start, known)) :
    (program.sectionAt (start + 1) program.turnoffNumber executionDepth).Follows program ∧
      ∀ entry ∈ known.entries, program.Defined start entry := by
  obtain ⟨_, first, turnoff⟩ := level_of_checkMarkers marked
  have within : program.turnoffNumber ≤ program.length := Nat.sub_le _ _
  have declares := declares_of_declare declared
  obtain ⟨inRange, holds⟩ := declares.start_bounds
  obtain ⟨level, defined⟩ := declares.defined within (List.forall_mem_nil _)
  have next : program.level (start + 1) = program.level start :=
    (level_succ (hasKindAt_of_holds holds)).trans (Int.add_zero _)
  exact ⟨follows_sectionAt (by omega) within (by omega), defined⟩

/-- At every point of a run, what is left to run follows the text. -/
theorem Passes.follows (passes : program.Passes world {} point) : point.block.Follows program := by
  obtain ⟨marked, start, known, declared, visits⟩ := passes
  obtain ⟨follows, defined⟩ := follows_of_declare marked declared
  exact visits.follows defined follows

/-- Every stop of a run is explained. -/
theorem explains_run {fuel : Nat} (long : 3 ≤ program.length)
    (stopped : (program.run fuel world {}).stop = some problem) :
    program.Explains world (program.run fuel world {}) problem := by
  -- A run stops at its markers, among its declarations, or at a point of its execution section.
  cases marked : program.checkMarkers with
  | error found =>
      rw [run, marked] at stopped
      cases stopped
      exact (rejects_of_checkMarkers long marked).explains
  | ok accepted =>
      cases declared : program.declare program.turnoffNumber program.turnoffNumber 1 {} with
      | mk result known =>
          cases result with
          | error found =>
              obtain ⟨_, first, turnoff⟩ := level_of_checkMarkers marked
              have within : program.turnoffNumber < program.length := by
                rw [turnoffNumber]
                omega
              simp only [run, marked, declared] at stopped ⊢
              cases stopped
              exact explains_of_declare within (List.forall_mem_nil _) (by omega) rfl declared
          | ok start =>
              rw [run_of_declare marked declared] at stopped ⊢
              obtain ⟨reached, ended⟩ := stop_execution_eq_some stopped
              have runs := runs_execute program known fuel Nesting.limit
                (program.sectionAt (start + 1) program.turnoffNumber executionDepth) { world }
              rw [ended] at runs ⊢
              obtain ⟨last, visits, raises⟩ := runs.raises
              have passes : program.Passes world {} last := ⟨marked, start, known, declared, visits⟩
              exact raises.explains passes passes.follows (Outcome.progress_execution _ known) rfl

/-- A program that is too short for its markers stops without a line. -/
theorem stop_of_short {fuel : Nat} (short : ¬ 3 ≤ program.length) :
    (program.run fuel world registry).stop = some (.fault ⟨.tooShort, none⟩) := by
  rw [run, checkMarkers, checkSkeleton, if_pos (Nat.not_le.mp short)]

/-- Every stop of a run is explained by the program's lines, if it has enough of them. -/
theorem tooShort_or_explains {fuel : Nat} (stopped : (program.run fuel world {}).stop = some problem) :
    problem = .fault ⟨.tooShort, none⟩ ∨ program.Explains world (program.run fuel world {}) problem := by
  by_cases long : 3 ≤ program.length
  · exact Or.inr (explains_run long stopped)
  · rw [stop_of_short long] at stopped
    cases stopped
    exact Or.inl rfl

/-- The two ways in which a run fails instead of being reported: one of its lines repeats a block as often as a
numeral says that has too many digits, or one of them misses a beeper at a position that is too long to be written. -/
inductive Escapes (program : Program) (execution : Execution) : Failure → Prop where
  | overlong {number : Nat} {digits : String} (holds : program.hasKindAt number (.iterate digits) = true)
      (long : Numeral.maxDigits < Numeral.countDigits digits.toList) :
      Escapes program execution (.refused (.numeral (.tooManyDigits (Numeral.countDigits digits.toList))))
  | unwritable {number : Nat} {terminated : Bool}
      (holds : program.hasKindAt number (.statement "pickbeeper" terminated) = true)
      (alone : execution.world.nextToBeeper = false)
      (long : execution.world.robot.position.isWritable = false) :
      Escapes program execution (.refused .unwritable)

/-- A run that has ended is reported with the fault that it ended in, or it escapes. -/
theorem reported_or_escapes {fuel : Nat} (ended : (program.run fuel world {}).stop ≠ some .outOfFuel) :
    (∃ fault, Report.ofExecution (program.run fuel world {}) =
        .ok (.ofWorld (program.run fuel world {}).world fault) ∧
      (fault = none ↔ (program.run fuel world {}).stop = none) ∧
      ∀ found, (program.run fuel world {}).stop = some (.fault found) → fault = some found) ∨
    ∃ failure, program.Escapes (program.run fuel world {}) failure ∧
      Report.ofExecution (program.run fuel world {}) = .error failure := by
  cases stopped : (program.run fuel world {}).stop with
  | none =>
      refine Or.inl ⟨none, ?_, by simp, by simp⟩
      rw [Report.ofExecution, stopped]
  | some problem =>
      cases problem with
      | fault found =>
          refine Or.inl ⟨some found, ?_, by simp, by simp⟩
          rw [Report.ofExecution, stopped]
      | nestingTooDeep =>
          refine Or.inl ⟨some ⟨.nestingTooDeep, none⟩, ?_, by simp, by simp⟩
          rw [Report.ofExecution, stopped]
      | outOfFuel => exact absurd stopped ended
      | missingLine number =>
          rcases tooShort_or_explains stopped with impossible | explains
          · cases impossible
          · cases explains
      | tooManyDigits count =>
          rcases tooShort_or_explains stopped with impossible | explains
          · cases impossible
          · cases explains with
            | digits holds long =>
                refine Or.inr ⟨_, .overlong holds long, ?_⟩
                rw [Report.ofExecution, stopped]
                rfl
      | unwritable =>
          rcases tooShort_or_explains stopped with impossible | explains
          · cases impossible
          · cases explains with
            | unwritable holds failed =>
                obtain ⟨_, alone, long⟩ := World.perform_eq_unwritable.mp failed
                refine Or.inr ⟨_, .unwritable holds alone long, ?_⟩
                rw [Report.ofExecution, stopped]
                rfl

end

/-- Internal failures are out of reach. Whatever its lines are, a run never reads a line that the program
does not have and never finds a block without an end: at every point, what is left to run can only break at
a structural fault or at a count with too many digits. A body never ends before it starts. -/
theorem run_finds_every_end (program : Program) (world : World) :
    (∀ fuel number, (program.run fuel world {}).stop ≠ some (.missingLine number)) ∧
    (∀ fuel header line, (program.run fuel world {}).stop ≠ some (.fault ⟨.unterminatedBlock header, line⟩)) ∧
    (∀ point, program.Passes world {} point → point.block.Follows program) ∧
    (∀ header number stop first last left depth, program.openBlock header number stop depth = .ok first →
      (closeBody header number stop (program.block first stop (depth + 1))).skip left = .ok last →
      first ≤ last) := by
  refine ⟨?_, ?_, ?_, ?_⟩
  · intro fuel number stopped
    rcases tooShort_or_explains stopped with impossible | explains
    · cases impossible
    · cases explains
  · intro fuel header line stopped
    rcases tooShort_or_explains stopped with impossible | explains
    · cases impossible
    · cases explains with
      | fault present guilty => exact guilty.elim nofun nofun
  · intro point passes
    exact passes.follows
  · intro header number stop first last left depth opened skipped
    obtain ⟨room, rfl, _⟩ := openBlock_eq_ok.mp opened
    obtain ⟨skipped, _⟩ := skip_closeBody_eq_ok.mp skipped
    exact (ending_block_bounds (by omega) (Block.skip_eq_ok_iff.mp skipped).2.2).1

theorem run_finds_every_end_tour :
    tour.Passes .corridor {} ⟨981, .statement 11 "move" (.done 12), { world := .corridor }⟩ ∧
      (Block.statement 11 "move" (.done 12)).Follows tour ∧
      tour.openBlock .define 1 tour.turnoffNumber definitionDepth = .ok 3 ∧
      (closeBody .define 1 tour.turnoffNumber (tour.block 3 tour.turnoffNumber (definitionDepth + 1))).skip 981 =
        .ok 7 ∧ 3 ≤ 7 := by
  obtain ⟨_, _, follows, ordered⟩ := run_finds_every_end tour .corridor
  have passes : tour.Passes .corridor {} ⟨981, .statement 11 "move" (.done 12), { world := .corridor }⟩ :=
    passes_tour (by decide)
  have opened : tour.openBlock .define 1 tour.turnoffNumber definitionDepth = .ok 3 := by rfl
  have skipped : (closeBody .define 1 tour.turnoffNumber
      (tour.block 3 tour.turnoffNumber (definitionDepth + 1))).skip 981 = .ok 7 := by rfl
  exact ⟨passes, follows _ passes, opened, skipped, ordered _ _ _ _ _ _ _ opened skipped⟩

/-- Faults name the guilty line. A run that ends in a fault names one of the program's lines, no caller can
name another one, and the named line is guilty of the fault in the world and registry that the run leaves. -/
theorem fault_names_guilty_line (program : Program) (fuel : Nat) (world : World) (fault : Fault)
    (long : 3 ≤ program.length) (stopped : (program.run fuel world {}).stop = some (.fault fault)) :
    ∃ number line, program[number]? = some line ∧ number < program.length ∧
      fault.line = some ((number : Int) + 1) ∧
      (∀ caller, fault.diagnostic.atLine caller = fault.diagnostic) ∧
      program.Guilty world (program.run fuel world {}) number line fault.cause := by
  cases explains_run long stopped with
  | fault present guilty =>
      obtain ⟨inside, _⟩ := List.getElem?_eq_some_iff.mp present
      exact ⟨_, _, present, inside, rfl, fun _ => rfl, guilty⟩

/-- A program whose only instruction moves twice. -/
def stumble : Program :=
  classify
    ["BEGINNING-OF-PROGRAM", "\tDEFINE-NEW-INSTRUCTION stride AS", "\tBEGIN", "\t\tmove;", "\t\tmove", "\tEND",
      "\tBEGINNING-OF-EXECUTION", "\t\tstride;", "\t\tturnoff", "\tEND-OF-EXECUTION", "END-OF-PROGRAM"]

theorem fault_names_guilty_line_stumble :
    (stumble.run 20 .corridor {}).stop = some (.fault (.onLine (.robot .frontBlocked) 4)) ∧
      ∃ line, stumble[4]? = some line ∧
        stumble.Guilty .corridor (stumble.run 20 .corridor {}) 4 line (.robot .frontBlocked) := by
  have stopped : (stumble.run 20 .corridor {}).stop = some (.fault (.onLine (.robot .frontBlocked) 4)) := by
    decide +kernel
  obtain ⟨number, line, present, _, named, _, guilty⟩ :=
    fault_names_guilty_line stumble 20 .corridor _ (by decide) stopped
  have same : ((4 : Nat) : Int) + 1 = number + 1 := Option.some.inj named
  obtain rfl : 4 = number := by omega
  exact ⟨stopped, line, present, guilty⟩

end Program

end GridRobot
