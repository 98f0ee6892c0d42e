import GridRobot.Program.Run

namespace GridRobot

namespace Block

/-- Replacing the leaf of a block changes where it ends and nothing before. -/
theorem ending_onDone (leaf : Nat → Block) (block : Block) :
    (block.onDone leaf).ending =
      match block.ending with
      | .error stop => .error stop
      | .ok last => (leaf last).ending := by
  induction block with
  | done number => rfl
  | broken stop => rfl
  | statement number name rest inductionHypothesis => exact inductionHypothesis
  | branch number condition body alternative rest _ _ inductionHypothesis =>
      exact inductionHypothesis
  | loop number condition body rest _ inductionHypothesis => exact inductionHypothesis
  | iterate number count body rest _ inductionHypothesis => exact inductionHypothesis

/-- A leaf that is replaced by itself leaves the block as it is. -/
theorem onDone_eq_self {leaf : Nat → Block} {block : Block} {last : Nat} (ended : block.ending = .ok last)
    (kept : leaf last = .done last) : block.onDone leaf = block := by
  induction block with
  | done number =>
      cases ended
      exact kept
  | broken stop => cases ended
  | statement number name rest inductionHypothesis =>
      exact congrArg (statement number name) (inductionHypothesis ended)
  | branch number condition body alternative rest _ _ inductionHypothesis =>
      exact congrArg (branch number condition body alternative) (inductionHypothesis ended)
  | loop number condition body rest _ inductionHypothesis =>
      exact congrArg (loop number condition body) (inductionHypothesis ended)
  | iterate number count body rest _ inductionHypothesis =>
      exact congrArg (iterate number count body) (inductionHypothesis ended)

end Block

namespace Line

/-- The check of the indent passes exactly if the line sits at the depth. -/
theorem checkIndent_eq_ok {line : Line} {number depth : Int} :
    line.checkIndent number depth = .ok () ↔ sitsAt line.text.toList depth = true := by
  rw [checkIndent]
  split <;> simp_all

/-- The check of the terminator passes exactly if a semicolon stands where no closing line follows. -/
theorem checkTerminator_eq_ok {line : Line} {number : Int} {next : Option Line} :
    line.checkTerminator number next = .ok () ↔
      (line.kind.isTerminated = true ↔ ¬ next.any (fun following => following.kind.isClosing) = true) := by
  rw [checkTerminator]
  cases line.kind.isTerminated <;> cases next.any (fun following => following.kind.isClosing) <;> simp

end Line

namespace Program

/-- A closed body ends inside its range, on the line where the block in it ends. -/
theorem ending_closeBody_eq_ok {header : Header} {number stop last : Nat} {block : Block} :
    (closeBody header number stop block).ending = .ok last ↔ block.ending = .ok last ∧ last < stop := by
  rw [closeBody, Block.ending_onDone]
  cases block.ending with
  | error problem => simp
  | ok reached =>
      by_cases outside : stop ≤ reached
      · simp only [outside, ite_true, Block.fault, Block.ending, reduceCtorEq, false_iff, Except.ok.injEq]
        omega
      · simp only [outside, ite_false, Block.ending, Except.ok.injEq]
        constructor
        · intro same
          exact ⟨same, by omega⟩
        · exact And.left

/-- A header opens its block two lines below it. -/
theorem openBlock_eq_ok {program : Program} {header : Header} {number stop first : Nat} {depth : Int} :
    program.openBlock header number stop depth = .ok first ↔
      number + 1 < stop ∧ first = number + 2 ∧
        ∃ line, program[number + 1]? = some line ∧ line.kind = .opening ∧
          Line.sitsAt line.text.toList depth = true := by
  rw [openBlock]
  by_cases outside : stop ≤ number + 1
  · simp only [outside, ite_true, reduceCtorEq, false_iff]
    omega
  · have inside : number + 1 < stop := by omega
    simp only [outside, ite_false, inside, true_and]
    cases program[number + 1]? with
    | none => simp
    | some line =>
        by_cases opening : line.kind = .opening
        · simp only [opening, ite_true, Option.some.injEq, exists_eq_left', true_and]
          by_cases sits : Line.sitsAt line.text.toList depth = true
          · rw [Line.checkIndent_eq_ok.mpr sits]
            simp only [sits, and_true, Except.ok.injEq]
            exact eq_comm
          · have refused : ∃ fault, line.checkIndent (number + 1) depth = .error fault := by
              rw [Line.checkIndent, if_neg sits]
              exact ⟨_, rfl⟩
            obtain ⟨fault, refused⟩ := refused
            simp [refused, sits]
        · simp [opening]

/-- A reader advances if the blocks that it reads end behind their first line and in their range. -/
def Advances (stop : Nat) (read : Nat → Block) : Prop :=
  ∀ first last, first ≤ stop → (read first).ending = .ok last → first ≤ last ∧ last ≤ stop

section
variable {program : Program} {header : Header} {number stop last : Nat} {depth : Int}
  {inside inside' next next' : Nat → Block}

/-- A body ends behind its header and inside its range. -/
theorem ending_body_bounds (advances : Advances stop inside)
    (ended : (program.body header number stop depth inside).ending = .ok last) :
    number < last ∧ last < stop := by
  rw [body] at ended
  cases opened : program.openBlock header number stop depth with
  | error problem =>
      rw [opened] at ended
      cases ended
  | ok first =>
      rw [opened] at ended
      obtain ⟨room, rfl, _⟩ := openBlock_eq_ok.mp opened
      obtain ⟨ended, inRange⟩ := ending_closeBody_eq_ok.mp ended
      have behind := advances _ _ (by omega) ended
      exact ⟨by omega, inRange⟩

/-- A body depends only on the lines behind its header. -/
theorem body_congr (same : ∀ first, number < first → first ≤ stop → inside first = inside' first) :
    program.body header number stop depth inside = program.body header number stop depth inside' := by
  rw [body, body]
  cases opened : program.openBlock header number stop depth with
  | error problem => rfl
  | ok first =>
      obtain ⟨room, rfl, _⟩ := openBlock_eq_ok.mp opened
      simp only [same (number + 2) (by omega) (by omega)]

/-- What follows a body is read behind its end. -/
theorem afterBody_congr {block : Block}
    (same : ∀ last, block.ending = .ok last → next (last + 1) = next' (last + 1)) :
    program.afterBody block next = program.afterBody block next' := by
  rw [afterBody, afterBody]
  cases ended : block.ending with
  | error problem => rfl
  | ok last => simp only [same last ended]

/-- The alternative of a branch and what follows it are read from its line on. -/
theorem alternative_congr {build : Block → Block → Block} (inRange : number ≤ stop)
    (advances : Advances stop inside)
    (sameInside : ∀ first, number ≤ first → first ≤ stop → inside first = inside' first)
    (sameNext : ∀ first, number ≤ first → first ≤ stop → next first = next' first) :
    program.alternative number stop depth inside build next =
      program.alternative number stop depth inside' build next' := by
  have sameBody : program.body .otherwise number stop depth inside =
      program.body .otherwise number stop depth inside' :=
    body_congr fun first behind within => sameInside first (by omega) within
  have sameAfter : program.afterBody (program.body .otherwise number stop depth inside) next =
      program.afterBody (program.body .otherwise number stop depth inside) next' := by
    apply afterBody_congr
    intro last ended
    have bounds := ending_body_bounds advances ended
    exact sameNext _ (by omega) (by omega)
  simp only [alternative, sameAfter, sameNext number (Nat.le_refl _) inRange]
  rw [sameBody]

/-- The blocks inside and after a step are read behind its line. -/
theorem step_congr (inRange : number < stop) (advances : Advances stop inside)
    (sameInside : ∀ first, number < first → first ≤ stop → inside first = inside' first)
    (sameNext : ∀ first, number < first → first ≤ stop → next first = next' first) :
    program.step stop depth inside next number = program.step stop depth inside' next' number := by
  have sameBody (kind : Header) :
      program.body kind number stop depth inside = program.body kind number stop depth inside' :=
    body_congr sameInside
  have sameOpened (kind : Header) (first : Nat)
      (opened : program.openBlock kind number stop depth = .ok first) :
      inside first = inside' first ∧
        program.afterBody (closeBody kind number stop (inside first)) next =
          program.afterBody (closeBody kind number stop (inside first)) next' := by
    have bounds := openBlock_eq_ok.mp opened
    refine ⟨sameInside first (by omega) (by omega), afterBody_congr fun last ended => ?_⟩
    have closed := ending_closeBody_eq_ok.mp ended
    have behind := advances first last (by omega) closed.1
    exact sameNext _ (by omega) (by omega)
  rw [step, step]
  cases program[number]? with
  | none => rfl
  | some line =>
      simp only
      cases line.checkIndent number depth with
      | error fault => rfl
      | ok =>
          simp only
          cases line.kind with
          | statement name terminated => simp only [sameNext (number + 1) (by omega) (by omega)]
          | branch condition =>
              simp only [← sameBody]
              cases ended : (program.body .branch number stop depth inside).ending with
              | error problem => rfl
              | ok last =>
                  have bounds := ending_body_bounds advances ended
                  have sameRest : program.alternative (last + 1) stop depth inside
                      (.branch number condition (program.body .branch number stop depth inside)) next =
                      program.alternative (last + 1) stop depth inside'
                      (.branch number condition (program.body .branch number stop depth inside)) next' :=
                    alternative_congr (by omega) advances
                      (fun first behind within => sameInside first (by omega) within)
                      (fun first behind within => sameNext first (by omega) within)
                  simp only [sameRest]
          | loop condition =>
              simp only
              cases opened : program.openBlock .loop number stop depth with
              | error problem => rfl
              | ok first =>
                  obtain ⟨sameFirst, sameAfter⟩ := sameOpened .loop first opened
                  simp only [sameAfter]
                  rw [sameFirst]
          | iterate digits =>
              simp only
              split
              · rfl
              · cases opened : program.openBlock .iterate number stop depth with
                | error problem => rfl
                | ok first =>
                    obtain ⟨sameFirst, sameAfter⟩ := sameOpened .iterate first opened
                    simp only [sameAfter]
                    rw [sameFirst]
          | _ => rfl

/-- What follows a body ends where the lines behind the body's end do. -/
theorem ending_afterBody {block : Block} (ended : (program.afterBody block next).ending = .ok last) :
    ∃ reached, block.ending = .ok reached ∧ (next (reached + 1)).ending = .ok last := by
  rw [afterBody] at ended
  cases closed : block.ending with
  | error problem =>
      rw [closed] at ended
      cases ended
  | ok reached =>
      rw [closed] at ended
      simp only at ended
      split at ended
      · cases ended
      · exact ⟨reached, rfl, ended⟩

/-- A branch ends where the lines after it or after its alternative do. -/
theorem ending_alternative {line : Nat} {condition : String} {block : Block} (inRange : number ≤ stop)
    (advances : Advances stop inside)
    (ended : (program.alternative number stop depth inside (.branch line condition block) next).ending =
      .ok last) :
    ∃ first, number ≤ first ∧ first ≤ stop ∧ (next first).ending = .ok last := by
  rw [alternative] at ended
  split at ended
  · split at ended
    · cases ended
    · split at ended
      · split at ended
        · cases ended
        · obtain ⟨reached, closed, ended⟩ := ending_afterBody ended
          have bounds := ending_body_bounds advances closed
          exact ⟨reached + 1, by omega, by omega, ended⟩
      · exact ⟨number, Nat.le_refl _, inRange, ended⟩
  · exact ⟨number, Nat.le_refl _, inRange, ended⟩

/-- Where a step ends is where the lines after it end. -/
theorem ending_step (inRange : number < stop) (advances : Advances stop inside)
    (ended : (program.step stop depth inside next number).ending = .ok last) :
    ∃ first, number < first ∧ first ≤ stop ∧ (next first).ending = .ok last := by
  have afterOpened (kind : Header) (first : Nat)
      (opened : program.openBlock kind number stop depth = .ok first)
      (ended : (program.afterBody (closeBody kind number stop (inside first)) next).ending = .ok last) :
      ∃ first, number < first ∧ first ≤ stop ∧ (next first).ending = .ok last := by
    obtain ⟨reached, closed, ended⟩ := ending_afterBody ended
    have bounds := openBlock_eq_ok.mp opened
    have closed := ending_closeBody_eq_ok.mp closed
    have behind := advances first reached (by omega) closed.1
    exact ⟨reached + 1, by omega, by omega, ended⟩
  rw [step] at ended
  cases present : program[number]? with
  | none =>
      rw [present] at ended
      cases ended
  | some line =>
      simp only [present] at ended
      split at ended
      · cases ended
      · split at ended
        · split at ended
          · cases ended
          · exact ⟨number + 1, by omega, by omega, ended⟩
        · split at ended
          · cases ended
          · rename_i reached closed
            have bounds := ending_body_bounds advances closed
            split at ended
            · cases ended
            · obtain ⟨first, behind, within, ended⟩ := ending_alternative (by omega) advances ended
              exact ⟨first, by omega, within, ended⟩
        · split at ended
          · cases ended
          · rename_i first opened
            exact afterOpened .loop first opened ended
        · split at ended
          · cases ended
          · split at ended
            · cases ended
            · rename_i first opened
              exact afterOpened .iterate first opened ended
        all_goals cases ended

/-- Reading a block advances. -/
theorem advances_blockFrom (program : Program) (stop fuel : Nat) (depth : Int) :
    Advances stop (program.blockFrom stop fuel depth) := by
  induction fuel generalizing depth with
  | zero =>
      intro first last within ended
      simp only [blockFrom, Block.ending, Except.ok.injEq] at ended
      omega
  | succ fuel inductionHypothesis =>
      intro first last within ended
      rw [blockFrom] at ended
      split at ended
      · simp only [Block.ending, Except.ok.injEq] at ended
        omega
      · split at ended
        · cases ended
        · split at ended
          · simp only [Block.ending, Except.ok.injEq] at ended
            omega
          · obtain ⟨later, behind, inside, ended⟩ :=
              ending_step (by omega) (inductionHypothesis (depth + 1)) ended
            have bounds := inductionHypothesis depth later last inside ended
            omega

/-- A range needs no more fuel than it has lines. -/
theorem blockFrom_fuel (program : Program) (stop fuel more : Nat) (depth : Int) (number : Nat)
    (enough : stop - number ≤ fuel) (enough' : stop - number ≤ more) :
    program.blockFrom stop fuel depth number = program.blockFrom stop more depth number := by
  induction fuel generalizing more depth number with
  | zero =>
      cases more with
      | zero => rfl
      | succ more => rw [blockFrom, blockFrom, if_pos (by omega)]
  | succ fuel inductionHypothesis =>
      cases more with
      | zero => rw [blockFrom, blockFrom, if_pos (by omega)]
      | succ more =>
          rw [blockFrom, blockFrom]
          split
          · rfl
          · rw [step_congr (by omega) (advances_blockFrom program stop fuel (depth + 1))
              (fun first behind _ => inductionHypothesis more (depth + 1) first (by omega) (by omega))
              (fun first behind _ => inductionHypothesis more depth first (by omega) (by omega))]

/-- A range without lines holds an empty block. -/
theorem block_of_le (outside : stop ≤ number) : program.block number stop depth = .done stop := by
  rw [block, Nat.sub_eq_zero_of_le outside, blockFrom]

/-- Blocks end in their range. -/
theorem ending_block_bounds (inRange : number ≤ stop)
    (ended : (program.block number stop depth).ending = .ok last) : number ≤ last ∧ last ≤ stop :=
  advances_blockFrom program stop (stop - number) depth number last inRange ended

/-- A block is empty if its first line closes it, and else starts with the step on that line. -/
theorem block_eq_step (inRange : number < stop) {line : Line} (present : program[number]? = some line) :
    program.block number stop depth =
      if line.kind.isClosing && Line.sitsAt line.text.toList (depth - 1) then .done number
      else program.step stop depth (fun first => program.block first stop (depth + 1))
        (fun first => program.block first stop depth) number := by
  have fueled : stop - number = (stop - number - 1) + 1 := by omega
  rw [block, fueled, blockFrom, if_neg (by omega), present]
  simp only
  rw [step_congr inRange (advances_blockFrom program stop (stop - number - 1) (depth + 1))
    (fun first behind _ => blockFrom_fuel program stop _ (stop - first) (depth + 1) first (by omega) (by omega))
    (fun first behind _ => blockFrom_fuel program stop _ (stop - first) depth first (by omega) (by omega))]
  rfl

end

end Program

end GridRobot
