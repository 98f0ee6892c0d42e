import GridRobot.Proofs.Reading

namespace GridRobot

namespace Line

/-- A depth that is a number asks for exactly that many tabs. -/
theorem sitsAt_natCast (text : List Char) (depth : Nat) :
    sitsAt text (depth : Int) = decide (leadingIndent text = depth) := rfl

end Line

namespace Program

/-- The program has a line of this kind with exactly that many tabs. -/
def Holds (program : Program) (number depth : Nat) (kind : LineKind) : Prop :=
  ∃ line, program[number]? = some line ∧ line.kind = kind ∧ line.indent = depth

/-- The program has a closing line behind this number. -/
def ClosesNext (program : Program) (number : Nat) : Prop :=
  ∃ line, program[number + 1]? = some line ∧ line.kind.isClosing = true

/-- The line carries a semicolon exactly if no closing line follows it. -/
def Punctuated (program : Program) (number : Nat) : Prop :=
  ∃ line, program[number]? = some line ∧ (line.kind.isTerminated = true ↔ ¬ program.ClosesNext number)

section
variable {program : Program} {header : Header} {number stop close last depth : Nat}

theorem any_isClosing_iff :
    (program[number + 1]?).any (fun following => following.kind.isClosing) = true ↔
      program.ClosesNext number := by
  rw [ClosesNext]
  cases program[number + 1]? <;> simp

/-- The check of a line's terminator passes exactly on punctuated lines. -/
theorem checkTerminatorAt_eq_ok : program.checkTerminatorAt number = .ok () ↔ program.Punctuated number := by
  rw [checkTerminatorAt, Punctuated]
  cases program[number]? with
  | none => simp
  | some line =>
      simp only [Option.some.injEq, exists_eq_left']
      rw [← any_isClosing_iff, ← Line.checkTerminator_eq_ok]
      cases line.checkTerminator number program[number + 1]? with
      | error fault => exact ⟨nofun, nofun⟩
      | ok value => exact ⟨fun _ => rfl, fun _ => rfl⟩

/-- A header opens its block exactly if an opening line at its depth follows. -/
theorem openBlock_holds (inRange : number + 1 < stop) (opening : program.Holds (number + 1) depth .opening) :
    program.openBlock header number stop depth = .ok (number + 2) := by
  obtain ⟨line, present, kind, sits⟩ := opening
  refine openBlock_eq_ok.mpr ⟨inRange, rfl, line, present, kind, ?_⟩
  rw [Line.sitsAt_natCast]
  exact decide_eq_true sits

/-- A body that ends in its range needs no other leaf. -/
theorem closeBody_of_ending {block : Block} (ended : block.ending = .ok last) (inRange : last < stop) :
    closeBody header number stop block = block :=
  Block.onDone_eq_self ended (if_neg (Nat.not_le.mpr inRange))

/-- A section that reaches the end of its range is the block in it. -/
theorem sectionAt_of_ending {start : Nat} (ended : (program.block start stop depth).ending = .ok stop) :
    program.sectionAt start stop depth = program.block start stop depth :=
  Block.onDone_eq_self ended (if_neg (Nat.lt_irrefl stop))

theorem hasKindAt_of_holds {kind : LineKind} (holds : program.Holds number depth kind) :
    program.hasKindAt number kind = true := by
  obtain ⟨line, present, rfl, _⟩ := holds
  simp [hasKindAt, present]

/-- A line passes the check of the indent at the depth that it sits at. -/
theorem Holds.checkIndent {kind : LineKind} (holds : program.Holds number depth kind) :
    ∃ line, program[number]? = some line ∧ line.kind = kind ∧ line.checkIndent number depth = .ok () := by
  obtain ⟨line, present, kind, sits⟩ := holds
  refine ⟨line, present, kind, ?_⟩
  rw [Line.checkIndent_eq_ok, Line.sitsAt_natCast]
  exact decide_eq_true sits

/-- Behind the line there is an opening line, and the block after it ends on a punctuated line. -/
structure Encloses (program : Program) (number stop depth close : Nat) : Prop where
  opening : program.Holds (number + 1) depth .opening
  ended : (program.block (number + 2) stop (depth + 1 : Nat)).ending = .ok close
  inRange : close < stop
  punctuated : program.Punctuated close

namespace Encloses

/-- The closing line stands behind the opening line. -/
theorem bounds (encloses : program.Encloses number stop depth close) : number + 2 ≤ close ∧ close < stop := by
  refine ⟨?_, encloses.inRange⟩
  by_cases outside : stop ≤ number + 2
  · have ended := encloses.ended
    rw [block_of_le outside] at ended
    cases ended
    exact absurd encloses.inRange (Nat.lt_irrefl _)
  · exact (ending_block_bounds (by omega) encloses.ended).1

/-- The header's block can be opened. -/
theorem opened (encloses : program.Encloses number stop depth close) :
    program.openBlock header number stop depth = .ok (number + 2) := by
  have bounds := encloses.bounds
  exact openBlock_holds (by omega) encloses.opening

/-- The body is the block between the opening and the closing line. -/
theorem closeBody_eq (encloses : program.Encloses number stop depth close) :
    closeBody header number stop (program.block (number + 2) stop (depth + 1 : Nat)) =
      program.block (number + 2) stop (depth + 1 : Nat) :=
  closeBody_of_ending encloses.ended encloses.inRange

/-- What follows the body is read behind the closing line. -/
theorem afterBody_eq {next : Nat → Block} (encloses : program.Encloses number stop depth close) :
    program.afterBody (program.block (number + 2) stop (depth + 1 : Nat)) next = next (close + 1) := by
  rw [afterBody, encloses.ended]
  simp only [checkTerminatorAt_eq_ok.mpr encloses.punctuated]

end Encloses

/-- A line that does not close a block is read as a step. -/
theorem block_eq_step_of_holds {kind : LineKind} (inRange : number < stop)
    (holds : program.Holds number depth kind) (opens : kind.isClosing = false) :
    program.block number stop depth =
      program.step stop depth (fun first => program.block first stop (depth + 1 : Nat))
        (fun first => program.block first stop depth) number := by
  obtain ⟨line, present, rfl, _⟩ := holds
  rw [block_eq_step inRange present, opens, Bool.false_and]
  rfl

/-- A block ends on a closing line at the depth above it. -/
theorem block_closing {terminated : Bool} (inRange : number < stop)
    (holds : program.Holds number depth (.closing terminated)) :
    program.block number stop (depth + 1 : Nat) = .done number := by
  obtain ⟨line, present, kind, sits⟩ := holds
  have closes : (line.kind.isClosing && Line.sitsAt line.text.toList (((depth + 1 : Nat) : Int) - 1)) = true := by
    rw [kind, show ((depth + 1 : Nat) : Int) - 1 = depth by omega, Line.sitsAt_natCast, Bool.and_eq_true]
    exact ⟨rfl, decide_eq_true sits⟩
  rw [block_eq_step inRange present, if_pos closes]

/-- A block at a depth ends on a closing line with one tab less. -/
theorem block_eq_done {terminated : Bool} (positive : 1 ≤ depth) (inRange : number < stop)
    (holds : program.Holds number (depth - 1) (.closing terminated)) :
    program.block number stop depth = .done number := by
  have closed := block_closing inRange holds
  rw [Nat.sub_add_cancel positive] at closed
  exact closed

/-- A statement is followed by the block behind its line. -/
theorem block_statement {name : String} {terminated : Bool} (inRange : number < stop)
    (holds : program.Holds number depth (.statement name terminated)) (punctuated : program.Punctuated number) :
    program.block number stop depth = .statement number name (program.block (number + 1) stop depth) := by
  rw [block_eq_step_of_holds inRange holds rfl]
  obtain ⟨line, present, kind, indented⟩ := holds.checkIndent
  have checked : line.checkTerminator number program[number + 1]? = .ok () := by
    obtain ⟨same, present', punctuated⟩ := punctuated
    rw [present] at present'
    cases present'
    rw [Line.checkTerminator_eq_ok, any_isClosing_iff]
    exact punctuated
  simp only [step, present, indented, kind, checked]

/-- A loop holds the enclosed block and is followed by the block behind its closing line. -/
theorem block_loop {condition : String} (holds : program.Holds number depth (.loop condition))
    (encloses : program.Encloses number stop depth close) :
    program.block number stop depth =
      .loop number condition (program.block (number + 2) stop (depth + 1 : Nat))
        (program.block (close + 1) stop depth) := by
  have bounds := encloses.bounds
  rw [block_eq_step_of_holds (by omega) holds rfl]
  obtain ⟨line, present, kind, indented⟩ := holds.checkIndent
  simp only [step, present, indented, kind, encloses.opened, encloses.closeBody_eq, encloses.afterBody_eq]

/-- A counted loop whose count is short enough is read like a loop. -/
theorem block_iterate {digits : String} (holds : program.Holds number depth (.iterate digits))
    (short : Numeral.countDigits digits.toList ≤ Numeral.maxDigits)
    (encloses : program.Encloses number stop depth close) :
    program.block number stop depth =
      .iterate number (Numeral.valueOf digits.toList) (program.block (number + 2) stop (depth + 1 : Nat))
        (program.block (close + 1) stop depth) := by
  have bounds := encloses.bounds
  rw [block_eq_step_of_holds (by omega) holds rfl]
  obtain ⟨line, present, kind, indented⟩ := holds.checkIndent
  simp only [step, present, indented, kind, if_neg (Nat.not_lt.mpr short), encloses.opened,
    encloses.closeBody_eq, encloses.afterBody_eq]

/-- A counted loop whose count is too long breaks the block, whatever follows it. -/
theorem block_overlong {digits : String} (inRange : number < stop)
    (holds : program.Holds number depth (.iterate digits))
    (long : Numeral.maxDigits < Numeral.countDigits digits.toList) :
    program.block number stop depth = .broken (.tooManyDigits (Numeral.countDigits digits.toList)) := by
  rw [block_eq_step_of_holds inRange holds rfl]
  obtain ⟨line, present, kind, indented⟩ := holds.checkIndent
  simp only [step, present, indented, kind, if_pos long]

/-- A branch is read up to its closing line before its alternative is looked for. -/
theorem block_eq_alternative {condition : String} (holds : program.Holds number depth (.branch condition))
    (encloses : program.Encloses number stop depth close) :
    program.block number stop depth =
      program.alternative (close + 1) stop depth (fun first => program.block first stop (depth + 1 : Nat))
        (.branch number condition (program.block (number + 2) stop (depth + 1 : Nat)))
        (fun first => program.block first stop depth) := by
  have bounds := encloses.bounds
  rw [block_eq_step_of_holds (by omega) holds rfl]
  obtain ⟨line, present, kind, indented⟩ := holds.checkIndent
  simp only [step, present, indented, kind, body, encloses.opened, encloses.closeBody_eq, encloses.ended,
    checkTerminatorAt_eq_ok.mpr encloses.punctuated]

/-- A branch without an alternative is followed by the block behind its closing line. -/
theorem block_branch {condition : String} (holds : program.Holds number depth (.branch condition))
    (encloses : program.Encloses number stop depth close)
    (within : close + 1 < stop → close + 1 < program.length)
    (alone : close + 1 < stop → ∀ line, program[close + 1]? = some line → line.kind ≠ .otherwise) :
    program.block number stop depth =
      .branch number condition (program.block (number + 2) stop (depth + 1 : Nat)) (.done (close + 1))
        (program.block (close + 1) stop depth) := by
  rw [block_eq_alternative holds encloses, alternative]
  split
  · rename_i inRange
    have inside := within inRange
    have present : program[close + 1]? = some (program[close + 1]) := List.getElem?_eq_getElem inside
    have other := alone inRange _ present
    simp only [present, if_neg other]
  · rfl

/-- A branch with an alternative holds both enclosed blocks. -/
theorem block_choice {condition : String} {afterwards : Nat}
    (holds : program.Holds number depth (.branch condition))
    (encloses : program.Encloses number stop depth close)
    (otherwise : program.Holds (close + 1) depth .otherwise)
    (encloses' : program.Encloses (close + 1) stop depth afterwards) :
    program.block number stop depth =
      .branch number condition (program.block (number + 2) stop (depth + 1 : Nat))
        (program.block (close + 3) stop (depth + 1 : Nat)) (program.block (afterwards + 1) stop depth) := by
  have bounds := encloses'.bounds
  rw [block_eq_alternative holds encloses, alternative, if_pos (by omega)]
  obtain ⟨line, present, kind, indented⟩ := otherwise.checkIndent
  simp only [present, kind, ite_true, indented, body, encloses'.opened, encloses'.closeBody_eq,
    encloses'.afterBody_eq]

end

end Program

end GridRobot
