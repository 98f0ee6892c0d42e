import GridRobot.Program.Run
import Mathlib.Data.List.Forall2

namespace GridRobot

/-- Lines that no check tells apart: they are of one kind, have as many tabs in front, and show the same words. -/
structure Line.Resembles (line other : Line) : Prop where
  kind : line.kind = other.kind
  indent : line.indent = other.indent
  words : Text.trim line.text.toList = Text.trim other.text.toList

/-- Programs whose lines resemble each other one by one. -/
def Program.Resembles (program other : Program) : Prop :=
  List.Forall₂ Line.Resembles program other

namespace Line.Resembles

variable {line other : Line} {number : Nat} {depth : Int}

/-- Only a negative depth asks for more of a text than its tabs in front. -/
theorem sitsAt_eq (alike : line.Resembles other) (deep : 0 ≤ depth) :
    sitsAt line.text.toList depth = sitsAt other.text.toList depth := by
  obtain ⟨tabs, rfl⟩ := Int.eq_ofNat_of_zero_le deep
  have indented : leadingIndent line.text.toList = leadingIndent other.text.toList := alike.indent
  simp only [sitsAt, indented]

theorem checkIndent_eq (alike : line.Resembles other) (deep : 0 ≤ depth) (number : Int) :
    line.checkIndent number depth = other.checkIndent number depth := by
  rw [checkIndent, checkIndent, alike.sitsAt_eq deep, alike.indent]

end Line.Resembles

namespace Program.Resembles

variable {program other : Program} {header : Header} {number stop : Nat} {depth : Int}

/-- The lines with one number are missing from both programs or resemble each other. -/
theorem lookup (alike : program.Resembles other) (number : Nat) :
    (program[number]? = none ∧ other[number]? = none) ∨
      ∃ line line', program[number]? = some line ∧ other[number]? = some line' ∧ line.Resembles line' := by
  induction alike generalizing number with
  | nil => exact Or.inl ⟨rfl, rfl⟩
  | cons same _ inductionHypothesis =>
      cases number with
      | zero => exact Or.inr ⟨_, _, rfl, rfl, same⟩
      | succ number => exact inductionHypothesis number

/-- A question about the kind of a line has one answer in both programs. -/
theorem any_kind_eq (alike : program.Resembles other) (number : Nat) (test : LineKind → Bool) :
    (program[number]?.any fun line => test line.kind) = other[number]?.any fun line => test line.kind := by
  rcases alike.lookup number with ⟨missing, missing'⟩ | ⟨line, line', present, present', same⟩
  · rw [missing, missing']
  · simp only [present, present', Option.any_some, same.kind]

section Blocks

theorem checkTerminator_eq (alike : program.Resembles other) {line line' : Line} (same : line.Resembles line')
    (number : Int) (following : Nat) :
    line.checkTerminator number program[following]? = line'.checkTerminator number other[following]? := by
  rw [Line.checkTerminator, Line.checkTerminator, alike.any_kind_eq following, same.kind]

theorem checkTerminatorAt_eq (alike : program.Resembles other) (number : Nat) :
    program.checkTerminatorAt number = other.checkTerminatorAt number := by
  rw [checkTerminatorAt, checkTerminatorAt]
  rcases alike.lookup number with ⟨missing, missing'⟩ | ⟨line, line', present, present', same⟩
  · rw [missing, missing']
  · simp only [present, present', alike.checkTerminator_eq same]

theorem openBlock_eq (alike : program.Resembles other) (deep : 0 ≤ depth) :
    program.openBlock header number stop depth = other.openBlock header number stop depth := by
  rw [openBlock, openBlock]
  rcases alike.lookup (number + 1) with ⟨missing, missing'⟩ | ⟨line, line', present, present', same⟩
  · rw [missing, missing']
  · simp only [present, present', same.kind, same.checkIndent_eq deep]

variable {inside next : Nat → Block}

theorem body_eq (alike : program.Resembles other) (deep : 0 ≤ depth) :
    program.body header number stop depth inside = other.body header number stop depth inside := by
  rw [body, body, alike.openBlock_eq deep]

theorem afterBody_eq (alike : program.Resembles other) (block : Block) :
    program.afterBody block next = other.afterBody block next := by
  simp only [afterBody, alike.checkTerminatorAt_eq]

theorem alternative_eq (alike : program.Resembles other) (deep : 0 ≤ depth) (build : Block → Block → Block) :
    program.alternative number stop depth inside build next =
      other.alternative number stop depth inside build next := by
  rw [alternative, alternative]
  rcases alike.lookup number with ⟨missing, missing'⟩ | ⟨line, line', present, present', same⟩
  · rw [missing, missing']
  · simp only [present, present', same.kind, same.checkIndent_eq deep, alike.body_eq deep, alike.afterBody_eq]

/-- A step is read in the same way if what is inside it and what follows it are. -/
theorem step_eq (alike : program.Resembles other) (deep : 0 ≤ depth) :
    program.step stop depth inside next number = other.step stop depth inside next number := by
  rw [step, step]
  rcases alike.lookup number with ⟨missing, missing'⟩ | ⟨line, line', present, present', same⟩
  · rw [missing, missing']
  · simp only [present, present', same.kind, same.words, same.checkIndent_eq deep, alike.checkTerminator_eq same,
      alike.checkTerminatorAt_eq, alike.openBlock_eq deep, alike.body_eq deep, alike.afterBody_eq,
      alike.alternative_eq deep]

/-- Blocks below the depth of the markers are read in the same way. -/
theorem blockFrom_eq (alike : program.Resembles other) (fuel : Nat) (deep : 1 ≤ depth) (number : Nat) :
    program.blockFrom stop fuel depth number = other.blockFrom stop fuel depth number := by
  induction fuel generalizing depth number with
  | zero => rfl
  | succ fuel inductionHypothesis =>
      have inside : program.blockFrom stop fuel (depth + 1) = other.blockFrom stop fuel (depth + 1) :=
        funext fun first => inductionHypothesis (by omega) first
      have next : program.blockFrom stop fuel depth = other.blockFrom stop fuel depth :=
        funext fun first => inductionHypothesis deep first
      -- The line that closes the block is looked for one level above, which is not negative here.
      rw [blockFrom, blockFrom, inside, next, alike.step_eq (by omega)]
      rcases alike.lookup number with ⟨missing, missing'⟩ | ⟨line, line', present, present', same⟩
      · rw [missing, missing']
      · simp only [present, present', same.kind, same.sitsAt_eq (show 0 ≤ depth - 1 by omega)]

theorem block_eq (alike : program.Resembles other) (deep : 1 ≤ depth) :
    program.block number stop depth = other.block number stop depth :=
  alike.blockFrom_eq (stop - number) deep number

theorem sectionAt_eq (alike : program.Resembles other) (deep : 1 ≤ depth) :
    program.sectionAt number stop depth = other.sectionAt number stop depth := by
  rw [sectionAt, sectionAt, alike.block_eq deep]

end Blocks

section Markers

theorem balanceFrom_eq (alike : program.Resembles other) (openBlocks : List Nat) (number : Nat) :
    balanceFrom openBlocks number program = balanceFrom openBlocks number other := by
  induction alike generalizing openBlocks number with
  | nil => rfl
  | cons same _ inductionHypothesis =>
      cases openBlocks <;> simp only [balanceFrom, same.kind, inductionHypothesis]

theorem checkMarkers_eq (alike : program.Resembles other) : program.checkMarkers = other.checkMarkers := by
  have marked (number : Nat) (kind : LineKind) : program.hasKindAt number kind = other.hasKindAt number kind :=
    alike.any_kind_eq number fun found => found = kind
  have balanced : program.checkBalance = other.checkBalance := alike.balanceFrom_eq [] 0
  simp only [checkMarkers, checkSkeleton, List.Forall₂.length_eq alike, marked, balanced]

end Markers

section Runs

variable {registry : Registry}

theorem findIdx?_calls_eq (alike : program.Resembles other) (name : String) :
    program.findIdx? (calls name) = other.findIdx? (calls name) := by
  induction alike with
  | nil => rfl
  | cons same _ inductionHypothesis =>
      rw [List.findIdx?_cons, List.findIdx?_cons, inductionHypothesis, calls, calls, same.kind]

theorem selfCall?_eq (alike : program.Resembles other) (name : String) (span : Span) :
    program.selfCall? name span = other.selfCall? name span := by
  have body : Program.Resembles ((program.drop span.start).take span.length)
      ((other.drop span.start).take span.length) :=
    List.forall₂_take span.length (List.forall₂_drop span.start alike)
  rw [selfCall?, selfCall?, body.findIdx?_calls_eq]

/-- A block is run in the same way, since the instructions it calls are read in the same way. -/
theorem execute_eq (alike : program.Resembles other) (fuel left : Nat) (block : Block) (progress : Progress) :
    program.execute registry fuel left block progress = other.execute registry fuel left block progress := by
  induction fuel generalizing left block progress with
  | zero => rfl
  | succ fuel inductionHypothesis =>
      have called (span : Span) : program.sectionAt span.start span.stop instructionDepth =
          other.sectionAt span.start span.stop instructionDepth := alike.sectionAt_eq (by decide)
      cases block <;> simp only [execute, inductionHypothesis, alike.selfCall?_eq, called]

theorem define_eq (alike : program.Resembles other) :
    program.define number stop registry = other.define number stop registry := by
  rw [define, define]
  rcases alike.lookup number with ⟨missing, missing'⟩ | ⟨line, line', present, present', same⟩
  · rw [missing, missing']
  · simp only [present, present', same.kind, alike.openBlock_eq (show 0 ≤ definitionDepth by decide),
      alike.block_eq (show 1 ≤ definitionDepth + 1 by decide)]

theorem declare_eq (alike : program.Resembles other) (fuel number : Nat) (registry : Registry) :
    program.declare stop fuel number registry = other.declare stop fuel number registry := by
  induction fuel generalizing number registry with
  | zero => rfl
  | succ fuel inductionHypothesis =>
      rw [declare, declare]
      rcases alike.lookup number with ⟨missing, missing'⟩ | ⟨line, line', present, present', same⟩
      · rw [missing, missing']
      · simp only [present, present', same.kind, same.checkIndent_eq (show 0 ≤ definitionDepth by decide),
          alike.define_eq, inductionHypothesis]

/-- Programs that resemble each other run in the same way. -/
theorem run_eq (alike : program.Resembles other) (fuel : Nat) (world : World) (registry : Registry) :
    program.run fuel world registry = other.run fuel world registry := by
  have turnoff : program.turnoffNumber = other.turnoffNumber := by
    rw [turnoffNumber, turnoffNumber, List.Forall₂.length_eq alike]
  have steps (first last : Nat) : program.sectionAt first last executionDepth =
      other.sectionAt first last executionDepth := alike.sectionAt_eq (by decide)
  simp only [run, alike.checkMarkers_eq, turnoff, alike.declare_eq, steps, alike.execute_eq]

end Runs

end Program.Resembles

end GridRobot
