import GridRobot.Proofs.Blame
import GridRobot.Proofs.Completion
import GridRobot.Proofs.Definitions

namespace GridRobot

namespace Program

/-- What can be wrong with the text of a range: what is wrong with the text of the program, a block that the
range cuts off, or a line of the range that the program does not have. -/
inductive Flaws (program : Program) (stop : Nat) : Stop → Prop where
  | rejected {problem : Stop} (rejects : program.Rejects problem) : Flaws program stop problem
  | unterminated {header : Header} {number : Nat} (inside : number < program.length) :
      Flaws program stop (.fault (.onLine (.unterminatedBlock header) number))
  | missing {number : Nat} (inRange : number < stop) (absent : program.length ≤ number) :
      Flaws program stop (.missingLine number)

end Program

namespace Block

/-- Every step of the block is what its line says, and where the block is malformed its problem is of this
sort. -/
def Spells (program : Program) (Problem : Stop → Prop) : Block → Prop
  | .done _ => True
  | .broken problem => Problem problem
  | .statement number name rest =>
    (∃ terminated, program.hasKindAt number (.statement name terminated) = true) ∧ rest.Spells program Problem
  | .branch number condition body alternative rest =>
    program.hasKindAt number (.branch condition) = true ∧ body.Spells program Problem ∧
      alternative.Spells program Problem ∧ rest.Spells program Problem
  | .loop number condition body rest =>
    program.hasKindAt number (.loop condition) = true ∧ body.Spells program Problem ∧ rest.Spells program Problem
  | .iterate number _ body rest =>
    (∃ digits, program.hasKindAt number (.iterate digits) = true) ∧ body.Spells program Problem ∧
      rest.Spells program Problem

namespace Spells

variable {program : Program} {Problem : Stop → Prop} {block : Block}

theorem mono {Problem' : Stop → Prop} (spells : block.Spells program Problem)
    (weaker : ∀ problem, Problem problem → Problem' problem) : block.Spells program Problem' := by
  induction block with
  | done number => exact trivial
  | broken problem => exact weaker problem spells
  | statement number name rest inductionHypothesis => exact ⟨spells.1, inductionHypothesis spells.2⟩
  | branch number condition body alternative rest bodyHypothesis alternativeHypothesis restHypothesis =>
      obtain ⟨holds, body, alternative, rest⟩ := spells
      exact ⟨holds, bodyHypothesis body, alternativeHypothesis alternative, restHypothesis rest⟩
  | loop number condition body rest bodyHypothesis restHypothesis =>
      exact ⟨spells.1, bodyHypothesis spells.2.1, restHypothesis spells.2.2⟩
  | iterate number count body rest bodyHypothesis restHypothesis =>
      exact ⟨spells.1, bodyHypothesis spells.2.1, restHypothesis spells.2.2⟩

theorem onDone {leaf : Nat → Block} (spells : block.Spells program Problem)
    (leafSpells : ∀ last, (leaf last).Spells program Problem) : (block.onDone leaf).Spells program Problem := by
  induction block with
  | done number => exact leafSpells number
  | broken problem => exact spells
  | statement number name rest inductionHypothesis => exact ⟨spells.1, inductionHypothesis spells.2⟩
  | branch number condition body alternative rest _ _ inductionHypothesis =>
      exact ⟨spells.1, spells.2.1, spells.2.2.1, inductionHypothesis spells.2.2.2⟩
  | loop number condition body rest _ inductionHypothesis =>
      exact ⟨spells.1, spells.2.1, inductionHypothesis spells.2.2⟩
  | iterate number count body rest _ inductionHypothesis =>
      exact ⟨spells.1, spells.2.1, inductionHypothesis spells.2.2⟩

/-- A block without an end has a problem of the sort. -/
theorem of_ending {problem : Stop} (spells : block.Spells program Problem)
    (broken : block.ending = .error problem) : Problem problem := by
  induction block with
  | done number => cases broken
  | broken found =>
      cases broken
      exact spells
  | statement number name rest inductionHypothesis => exact inductionHypothesis spells.2 broken
  | branch number condition body alternative rest _ _ inductionHypothesis =>
      exact inductionHypothesis spells.2.2.2 broken
  | loop number condition body rest _ inductionHypothesis => exact inductionHypothesis spells.2.2 broken
  | iterate number count body rest _ inductionHypothesis => exact inductionHypothesis spells.2.2 broken

/-- Skipping stops for a problem of the sort, or for the nesting. -/
theorem of_skip {left : Nat} {problem : Stop} (spells : block.Spells program Problem)
    (unread : block.skip left = .error problem) : Problem problem ∨ problem = .nestingTooDeep := by
  fun_induction skip left block with
  | case1 => cases unread
  | case2 =>
      cases unread
      exact Or.inl spells
  | case3 left number name rest inductionHypothesis => exact inductionHypothesis spells.2 unread
  | case5 left number condition body alternative rest inner entered found bodyUnread bodyHypothesis =>
      cases unread
      exact bodyHypothesis spells.2.1 bodyUnread
  | case6 left number condition body alternative rest inner entered last skipped found alternativeUnread
      bodyHypothesis alternativeHypothesis =>
      cases unread
      exact alternativeHypothesis spells.2.2.1 alternativeUnread
  | case7 left number condition body alternative rest inner entered last skipped last' skipped'
      bodyHypothesis alternativeHypothesis restHypothesis => exact restHypothesis spells.2.2.2 unread
  | case9 left number condition body rest inner entered found bodyUnread bodyHypothesis =>
      cases unread
      exact bodyHypothesis spells.2.1 bodyUnread
  | case10 left number condition body rest inner entered last skipped bodyHypothesis restHypothesis =>
      exact restHypothesis spells.2.2 unread
  | case12 left number count body rest inner entered found bodyUnread bodyHypothesis =>
      cases unread
      exact bodyHypothesis spells.2.1 bodyUnread
  | case13 left number count body rest inner entered last skipped bodyHypothesis restHypothesis =>
      exact restHypothesis spells.2.2 unread
  | _ =>
      -- In the other cases there is no room for a block.
      cases unread
      exact Or.inr rfl

end Spells

end Block

namespace Program

section
variable {program : Program} {header : Header} {number stop : Nat} {depth : Int} {block : Block}
  {inside next : Nat → Block}

theorem flaws_of_openBlock {problem : Stop} (present : number < program.length)
    (refused : program.openBlock header number stop depth = .error problem) : program.Flaws stop problem := by
  rw [openBlock] at refused
  split at refused
  · cases refused
    exact .rejected (.fault present (Or.inl rfl))
  · rename_i inRange
    split at refused
    · rename_i absent
      cases refused
      exact .missing (by omega) (List.getElem?_eq_none_iff.mp absent)
    · rename_i line found
      have inside : number + 1 < program.length := (List.getElem?_eq_some_iff.mp found).1
      split at refused
      · split at refused
        · rename_i unaligned
          cases refused
          exact .rejected (Line.rejects_of_checkIndent inside unaligned)
        · cases refused
      · cases refused
        exact .rejected (.fault present (Or.inl rfl))

theorem flaws_of_checkTerminatorAt {problem : Stop} (inRange : number < stop)
    (refused : program.checkTerminatorAt number = .error problem) : program.Flaws stop problem := by
  by_cases inside : number < program.length
  · exact .rejected (rejects_of_checkTerminatorAt inside refused)
  · rw [checkTerminatorAt, List.getElem?_eq_none (by omega)] at refused
    cases refused
    exact .missing inRange (by omega)

/-- A body that its range cuts off is a problem of its header. -/
theorem spells_closeBody (present : number < program.length) (spells : block.Spells program (program.Flaws stop)) :
    (closeBody header number stop block).Spells program (program.Flaws stop) := by
  apply spells.onDone
  intro last
  split
  · exact .unterminated present
  · exact trivial

theorem spells_body (present : number < program.length)
    (insideSpells : ∀ first, (inside first).Spells program (program.Flaws stop)) :
    (program.body header number stop depth inside).Spells program (program.Flaws stop) := by
  rw [body]
  split
  · rename_i refused
    exact flaws_of_openBlock present refused
  · exact spells_closeBody present (insideSpells _)

/-- A closed body ends in its range, so the line that closes it is a line of the range. -/
theorem ending_body_lt {last : Nat} (ended : (program.body header number stop depth inside).ending = .ok last) :
    last < stop := by
  rw [body] at ended
  split at ended
  · cases ended
  · exact (ending_closeBody_eq_ok.mp ended).2

theorem spells_afterBody (spells : block.Spells program (program.Flaws stop))
    (inRange : ∀ last, block.ending = .ok last → last < stop)
    (nextSpells : ∀ first, (next first).Spells program (program.Flaws stop)) :
    (program.afterBody block next).Spells program (program.Flaws stop) := by
  rw [afterBody]
  split
  · rename_i broken
    exact spells.of_ending broken
  · rename_i last ended
    split
    · rename_i refused
      exact flaws_of_checkTerminatorAt (inRange last ended) refused
    · exact nextSpells _

theorem spells_alternative {condition : String} {first : Nat}
    (holds : program.hasKindAt number (.branch condition) = true)
    (bodySpells : block.Spells program (program.Flaws stop))
    (insideSpells : ∀ first, (inside first).Spells program (program.Flaws stop))
    (nextSpells : ∀ first, (next first).Spells program (program.Flaws stop)) :
    (program.alternative first stop depth inside (.branch number condition block) next).Spells program
      (program.Flaws stop) := by
  rw [alternative]
  split
  · rename_i inRange
    split
    · rename_i absent
      exact ⟨holds, bodySpells, trivial, .missing inRange (List.getElem?_eq_none_iff.mp absent)⟩
    · rename_i line found
      have present : first < program.length := (List.getElem?_eq_some_iff.mp found).1
      split
      · split
        · rename_i unaligned
          exact ⟨holds, bodySpells, trivial, .rejected (Line.rejects_of_checkIndent present unaligned)⟩
        · have other : (program.body .otherwise first stop depth inside).Spells program (program.Flaws stop) :=
            spells_body present insideSpells
          exact ⟨holds, bodySpells, other, spells_afterBody other (fun _ => ending_body_lt) nextSpells⟩
      · exact ⟨holds, bodySpells, trivial, nextSpells _⟩
  · exact ⟨holds, bodySpells, trivial, nextSpells _⟩

/-- A step of a range is what its line says, or the line is malformed. -/
theorem spells_step (inRange : number < stop)
    (insideSpells : ∀ first, (inside first).Spells program (program.Flaws stop))
    (nextSpells : ∀ first, (next first).Spells program (program.Flaws stop)) :
    (program.step stop depth inside next number).Spells program (program.Flaws stop) := by
  rw [step]
  cases found : program[number]? with
  | none => exact .missing inRange (List.getElem?_eq_none_iff.mp found)
  | some line =>
      have present : number < program.length := (List.getElem?_eq_some_iff.mp found).1
      have stray {cause : Cause} (structural : cause.faultClass = .structural) :
          (Block.fault cause number).Spells program (program.Flaws stop) :=
        .rejected (.fault present (Or.inl structural))
      have afterHeader {header : Header} {first : Nat} :
          (closeBody header number stop (inside first)).Spells program (program.Flaws stop) ∧
            (program.afterBody (closeBody header number stop (inside first)) next).Spells program
              (program.Flaws stop) := by
        have spells : (closeBody header number stop (inside first)).Spells program (program.Flaws stop) :=
          spells_closeBody present (insideSpells first)
        exact ⟨spells, spells_afterBody spells (fun _ ended => (ending_closeBody_eq_ok.mp ended).2) nextSpells⟩
      simp only
      split
      · rename_i unaligned
        exact .rejected (Line.rejects_of_checkIndent present unaligned)
      · split
        · rename_i name terminated kind
          split
          · rename_i unpunctuated
            exact .rejected (Line.rejects_of_checkTerminator present unpunctuated)
          · exact ⟨⟨terminated, hasKindAt_iff.mpr ⟨line, found, kind⟩⟩, nextSpells _⟩
        · rename_i condition kind
          have holds := hasKindAt_iff.mpr ⟨line, found, kind⟩
          have spells : (program.body .branch number stop depth inside).Spells program (program.Flaws stop) :=
            spells_body present insideSpells
          split
          · rename_i problem broken
            exact ⟨holds, spells, spells.of_ending broken, spells.of_ending broken⟩
          · rename_i last ended
            split
            · rename_i refused
              exact ⟨holds, spells, trivial, flaws_of_checkTerminatorAt (ending_body_lt ended) refused⟩
            · exact spells_alternative holds spells insideSpells nextSpells
        · rename_i condition kind
          split
          · rename_i refused
            exact flaws_of_openBlock present refused
          · exact ⟨hasKindAt_iff.mpr ⟨line, found, kind⟩, afterHeader⟩
        · rename_i digits kind
          have holds := hasKindAt_iff.mpr ⟨line, found, kind⟩
          split
          · rename_i long
            exact .rejected (.digits holds long)
          · split
            · rename_i refused
              exact flaws_of_openBlock present refused
            · exact ⟨⟨digits, holds⟩, afterHeader⟩
        all_goals exact stray rfl

theorem spells_blockFrom (program : Program) (stop fuel : Nat) (depth : Int) (number : Nat) :
    (program.blockFrom stop fuel depth number).Spells program (program.Flaws stop) := by
  induction fuel generalizing depth number with
  | zero => exact trivial
  | succ fuel inductionHypothesis =>
      rw [blockFrom]
      split
      · exact trivial
      · split
        · rename_i absent
          exact .missing (by omega) (List.getElem?_eq_none_iff.mp absent)
        · split
          · exact trivial
          · exact spells_step (by omega) (inductionHypothesis (depth + 1)) (inductionHypothesis depth)

end

theorem hereditary_spells (program : Program) (Problem : Stop → Prop) :
    Hereditary (Block.Spells program Problem) where
  statement := fun spells => spells.2
  branch := fun spells => spells.2
  loop := fun spells => spells.2
  iterate := fun spells => ⟨spells.2.1, spells.2.2, fun _ => spells⟩

section
variable {program : Program} {registry : Registry} {Problem : Stop → Prop} {point : Point} {problem : Stop}
  {reached : Progress}

/-- The step at a point raises what is wrong with its text, or what is left to a well-formed text. -/
theorem Raises.spells (raises : program.Raises registry point problem reached)
    (spells : point.block.Spells program Problem) : Problem problem ∨ problem.Behavioural reached.world := by
  have unreadable {block : Block} {left : Nat} (spells : block.Spells program Problem)
      (unread : block.skip left = .error problem) : Problem problem ∨ problem.Behavioural reached.world := by
    rcases spells.of_skip unread with flawed | rfl
    · exact Or.inl flawed
    · exact Or.inr trivial
  cases raises with
  | outOfFuel => exact Or.inr trivial
  | tooDeep refused => exact Or.inr trivial
  | broken => exact Or.inl spells
  | actionFails known failed => exact Or.inr (Hindrance.behavioural failed _)
  | unknownStatement other missing => exact Or.inr (by simp [Stop.Behavioural, Fault.onLine, Cause.faultClass])
  | selfCall found calls => exact Or.inr (by simp [Stop.Behavioural, Fault.onLine, Cause.faultClass])
  | unknownBranch unknown => exact Or.inr (by simp [Stop.Behavioural, Fault.onLine, Cause.faultClass])
  | unknownLoop unknown => exact Or.inr (by simp [Stop.Behavioural, Fault.onLine, Cause.faultClass])
  | alternativeUnread entered inside unread => exact unreadable spells.2.2.1 unread
  | branchUnread entered unread => exact unreadable spells.2.1 unread
  | loopUnread entered unread => exact unreadable spells.2.1 unread
  | iterateUnread entered unread => exact unreadable spells.2.1 unread

/-- A section breaks where its block does, or at a line that closes a block that it does not open. -/
theorem spells_sectionAt {start stop : Nat} {depth : Int} :
    (program.sectionAt start stop depth).Spells program fun problem =>
      program.Flaws stop problem ∨ ∃ fault, problem = .fault fault := by
  apply ((spells_blockFrom program stop (stop - start) depth start).mono fun _ => Or.inl).onDone
  intro last
  split
  · exact Or.inr ⟨_, rfl⟩
  · exact trivial

end

end Program

/-- The text of a range can stop a walk for a fault, for a count with too many digits or for its nesting, but not for
a line that is not there. -/
def Stop.Proper (program : Program) : Stop → Prop
  | .fault _ => True
  | .tooManyDigits count => Numeral.maxDigits < count ∧ ∃ number digits,
      program.hasKindAt number (.iterate digits) = true ∧ Numeral.countDigits digits.toList = count
  | .nestingTooDeep => True
  | _ => False

namespace Program

section
variable {program : Program} {registry : Registry} {stop : Nat} {problem : Stop}

/-- What is wrong with the text of a range inside the program is proper. -/
theorem Flaws.proper (flaws : program.Flaws stop problem) (within : stop ≤ program.length) :
    problem.Proper program := by
  cases flaws with
  | rejected rejects =>
      cases rejects with
      | fault inside structural => exact trivial
      | digits holds long => exact ⟨long, _, _, holds, rfl⟩
  | unterminated inside => exact trivial
  | missing inRange absent => omega

/-- What is left to a well-formed text is proper, if no position is too long to be written and the run is not out
of fuel. -/
theorem proper_of_behavioural {world : World} (behavioural : problem.Behavioural world) :
    problem.Proper program ∨
      (problem = .unwritable ∧ world.nextToBeeper = false ∧ world.robot.position.isWritable = false) ∨
      problem = .outOfFuel := by
  cases problem with
  | fault found => exact Or.inl trivial
  | nestingTooDeep => exact Or.inl trivial
  | unwritable => exact Or.inr (Or.inl ⟨rfl, behavioural⟩)
  | outOfFuel => exact Or.inr (Or.inr rfl)
  | tooManyDigits count => exact behavioural.elim
  | missingLine number => exact behavioural.elim

/-- Every walk over the block that returns, live or not, returns a line from `low` to `high`. -/
def Returns (program : Program) (block : Block) (low high : Nat) : Prop :=
  (∀ left last, block.skip left = .ok last → low ≤ last ∧ last ≤ high) ∧
  ∀ registry fuel left progress last reached,
    program.execute registry fuel left block progress = .finished last reached → low ≤ last ∧ last ≤ high

/-- A walk returns the line where the text of its block ends. -/
theorem returns_of_ending {block : Block} {low high : Nat}
    (bounds : ∀ last, block.ending = .ok last → low ≤ last ∧ last ≤ high) : program.Returns block low high := by
  have skips (left last : Nat) (skipped : block.skip left = .ok last) : low ≤ last ∧ last ≤ high :=
    bounds last (Block.skip_eq_ok_iff.mp skipped).2.2
  refine ⟨skips, fun registry fuel left progress last reached finished => ?_⟩
  have runs := runs_execute program registry fuel left block progress
  rw [finished] at runs
  exact skips left last runs.skip_eq

theorem ending_stepAt {number last : Nat} {depth : Int} (inRange : number < stop)
    (ended : (program.stepAt number stop depth).ending = .ok last) : number + 1 ≤ last ∧ last ≤ stop := by
  obtain ⟨first, behind, inside, ended⟩ :=
    ending_step inRange (advances_blockFrom program stop (stop - number) (depth + 1)) ended
  cases ended
  exact ⟨behind, inside⟩

/-- A live walk over a range of the program stops properly, or it misses a beeper at a position that is too long to
be written, or is out of fuel. -/
theorem Runs.proper {start left : Nat} {depth : Int} {progress reached : Progress}
    (runs : program.Runs registry left (program.block start stop depth) progress (.stopped problem reached))
    (within : stop ≤ program.length) (own : ∀ entry ∈ registry.entries, program.Defines entry) :
    problem.Proper program ∨
      (problem = .unwritable ∧ reached.world.nextToBeeper = false ∧
        reached.world.robot.position.isWritable = false) ∨
      problem = .outOfFuel := by
  have spells := (spells_blockFrom program stop (stop - start) depth start).mono
    fun _ flaws => flaws.proper within
  have sections (name : String) (span : Span) (found : registry.find? name = some span) :
      (program.sectionAt span.start span.stop instructionDepth).Spells program (Stop.Proper program) := by
    have inside := (own _ (Registry.mem_of_find? found)).stop_lt
    apply spells_sectionAt.mono
    rintro problem (flaws | ⟨fault, rfl⟩)
    · exact flaws.proper (Nat.le_of_lt inside)
    · exact trivial
  obtain ⟨last, visits, raises⟩ := runs.raises
  rcases raises.spells (visits.hereditary (hereditary_spells program _) sections spells) with proper | behavioural
  · exact Or.inl proper
  · exact proper_of_behavioural behavioural

end

/-- The walk always advances and stays in its range. Whatever its lines are, a range of the program needs no more
rounds than it has lines; nowhere in it is a line read that the program does not have, and the walk that is not live
returns a line of the range or its end, or stops properly. Live or not, a step that returns has moved on and stays
in the range, and a block that returns stays in it; where the instructions are the program's own, a live walk does
not read a line that is not there either. -/
theorem walk_advances_in_range (program : Program) :
    (∀ (start stop : Nat) (depth : Int), start ≤ stop → stop ≤ program.length →
      (∀ rounds, stop - start ≤ rounds →
        program.blockFrom stop rounds depth start = program.block start stop depth) ∧
      (program.block start stop depth).Spells program (Stop.Proper program) ∧
      ∀ registry fuel progress,
        (∃ last, start ≤ last ∧ last ≤ stop ∧ program.carryOut registry fuel false
          (program.block start stop depth) progress = .finished last progress) ∨
        ∃ problem : Stop, problem.Proper program ∧ program.carryOut registry fuel false
          (program.block start stop depth) progress = .stopped problem progress) ∧
    (∀ (number stop : Nat) (depth : Int), number < stop →
      program.Returns (program.stepAt number stop depth) (number + 1) stop) ∧
    (∀ (start stop : Nat) (depth : Int), start ≤ stop →
      program.Returns (program.block start stop depth) start stop) ∧
    ∀ (registry : Registry) (start stop fuel left : Nat) (depth : Int) (progress : Progress) (problem : Stop)
      (reached : Progress), stop ≤ program.length → (∀ entry ∈ registry.entries, program.Defines entry) →
      program.execute registry fuel left (program.block start stop depth) progress = .stopped problem reached →
      problem.Proper program ∨
        (problem = .unwritable ∧ reached.world.nextToBeeper = false ∧
          reached.world.robot.position.isWritable = false) ∨
        problem = .outOfFuel := by
  have returns (start stop : Nat) (depth : Int) (ordered : start ≤ stop) :
      program.Returns (program.block start stop depth) start stop :=
    returns_of_ending fun _ ended => ending_block_bounds ordered ended
  refine ⟨?_, ?_, returns, ?_⟩
  · intro start stop depth ordered within
    have spells := (spells_blockFrom program stop (stop - start) depth start).mono
      fun _ flaws => flaws.proper within
    refine ⟨?_, spells, ?_⟩
    · intro rounds enough
      exact blockFrom_fuel program stop rounds (stop - start) depth start enough (Nat.le_refl _)
    · intro registry fuel progress
      cases skipped : (program.block start stop depth).skip Nesting.limit with
      | ok last =>
          obtain ⟨behind, inside⟩ := (returns start stop depth ordered).1 _ _ skipped
          exact Or.inl ⟨last, behind, inside, carryOut_eq_finished.mpr ⟨rfl, skipped⟩⟩
      | error problem =>
          refine Or.inr ⟨problem, ?_, carryOut_eq_stopped.mpr ⟨rfl, skipped⟩⟩
          rcases Block.Spells.of_skip spells skipped with proper | rfl
          · exact proper
          · exact trivial
  · intro number stop depth inRange
    exact returns_of_ending fun _ => ending_stepAt inRange
  · intro registry start stop fuel left depth progress problem reached within own stopped
    have runs := runs_execute program registry fuel left (program.block start stop depth) progress
    rw [stopped] at runs
    exact runs.proper within own

/-- The tour defines its one instruction itself. -/
theorem defines_tour :
    ∀ entry ∈ (⟨[("turnright", ⟨3, 7, by decide⟩)]⟩ : Registry).entries, tour.Defines entry := by
  obtain ⟨added, entries, _, defines, _⟩ :=
    (declares_of_declare declare_tour).tiles (Nat.sub_le _ _) List.nodup_nil
  rw [entries]
  exact defines

theorem walk_advances_in_range_tour :
    (9 ≤ 21 ∧ 21 ≤ tour.length) ∧
    (∃ last, 9 ≤ last ∧ last ≤ 21 ∧ tour.carryOut {} 0 false (tour.block 9 21 2) { world := .corridor } =
      .finished last { world := .corridor }) ∧
    (tour.execute ⟨[("turnright", ⟨3, 7, by decide⟩)]⟩ 20 985 (tour.stepAt 13 21 2) { world := .corridor } =
      .finished 21 ⟨{ World.corridor with robot.facing := .south, steps := 3 },
        [.turnLeft, .turnLeft, .turnLeft]⟩ ∧ 13 + 1 ≤ 21) ∧
    tour.execute ⟨[("turnright", ⟨3, 7, by decide⟩)]⟩ 20 9 (tour.block 9 21 2) { world := .corridor } =
      .stopped .nestingTooDeep ⟨{ World.corridor with robot.position := ⟨1, 0⟩, steps := 1 }, [.move]⟩ ∧
    Stop.nestingTooDeep.Proper tour := by
  obtain ⟨walks, steps, _, live⟩ := walk_advances_in_range tour
  have finished : tour.execute ⟨[("turnright", ⟨3, 7, by decide⟩)]⟩ 20 985 (tour.stepAt 13 21 2)
      { world := .corridor } = .finished 21
        ⟨{ World.corridor with robot.facing := .south, steps := 3 }, [.turnLeft, .turnLeft, .turnLeft]⟩ := by
    decide +kernel
  have stopped : tour.execute ⟨[("turnright", ⟨3, 7, by decide⟩)]⟩ 20 9 (tour.block 9 21 2)
      { world := .corridor } = .stopped .nestingTooDeep
        ⟨{ World.corridor with robot.position := ⟨1, 0⟩, steps := 1 }, [.move]⟩ := by
    decide +kernel
  refine ⟨by decide, ?_, ⟨finished, ((steps 13 21 2 (by decide)).2 _ _ _ _ _ _ finished).1⟩, stopped,
    (live _ 9 21 20 9 2 _ _ _ (by decide) defines_tour stopped).resolve_right nofun⟩
  rcases (walks 9 21 2 (by decide) (by decide)).2.2 {} 0 { world := .corridor } with returned | ⟨_, _, refused⟩
  · exact returned
  · have completed : tour.carryOut {} 0 false (tour.block 9 21 2) { world := .corridor } =
        .finished 21 { world := .corridor } := by decide +kernel
    rw [completed] at refused
    cases refused

end Program

end GridRobot
