import GridRobot.Proofs.Skipping

namespace GridRobot

/-- The same fault on the line that its line is moved to. -/
def Fault.relocate (move : Nat → Nat) (fault : Fault) : Fault :=
  { fault with line := fault.line.map fun line => (move (line - 1).toNat : Int) + 1 }

@[simp] theorem Fault.relocate_onLine (move : Nat → Nat) (cause : Cause) (number : Nat) :
    (Fault.onLine cause number).relocate move = Fault.onLine cause (move number) := by
  simp [relocate, onLine]

theorem mapError_ok {ε ε' α : Type} (change : ε → ε') (value : α) :
    (Except.ok value).mapError change = .ok value := rfl

def Stop.relocate (move : Nat → Nat) : Stop → Stop
  | .fault found => .fault (found.relocate move)
  | .missingLine number => .missingLine (move number)
  | .tooManyDigits count => .tooManyDigits count
  | .unwritable => .unwritable
  | .nestingTooDeep => .nestingTooDeep
  | .outOfFuel => .outOfFuel

@[simp] theorem Stop.relocate_onLine (move : Nat → Nat) (cause : Cause) (number : Nat) :
    (Stop.fault (.onLine cause number)).relocate move = .fault (.onLine cause (move number)) := by
  simp [relocate]

@[simp] theorem Hindrance.relocate_stop (move : Nat → Nat) (hindrance : Hindrance) (number : Nat) :
    (hindrance.stop number).relocate move = hindrance.stop (move number) := by
  cases hindrance with
  | robot error => exact Stop.relocate_onLine move (.robot error) number
  | unwritable => rfl

theorem Stop.relocate_eq_outOfFuel {move : Nat → Nat} {problem : Stop} :
    problem.relocate move = .outOfFuel ↔ problem = .outOfFuel := by
  cases problem <;> simp [relocate]

/-- What is found of a walk over lines, found of the lines that they are moved to. -/
def relocateVerdict (move : Nat → Nat) : Except Stop Nat → Except Stop Nat
  | .ok number => .ok (move number)
  | .error problem => .error (problem.relocate move)

def Outcome.relocate (move : Nat → Nat) : Outcome → Outcome
  | .finished number progress => .finished (move number) progress
  | .stopped problem progress => .stopped (problem.relocate move) progress

namespace Block

/-- The same steps on the lines that their lines are moved to. -/
def relocate (move : Nat → Nat) : Block → Block
  | .done number => .done (move number)
  | .broken problem => .broken (problem.relocate move)
  | .statement number name rest => .statement (move number) name (rest.relocate move)
  | .branch number condition body alternative rest =>
    .branch (move number) condition (body.relocate move) (alternative.relocate move) (rest.relocate move)
  | .loop number condition body rest =>
    .loop (move number) condition (body.relocate move) (rest.relocate move)
  | .iterate number count body rest =>
    .iterate (move number) count (body.relocate move) (rest.relocate move)

@[simp] theorem relocate_fault (move : Nat → Nat) (cause : Cause) (number : Nat) :
    (fault cause number).relocate move = fault cause (move number) := by
  simp [fault, relocate]

theorem ending_relocate (move : Nat → Nat) (block : Block) :
    (block.relocate move).ending = relocateVerdict move block.ending := by
  induction block with
  | done number => rfl
  | broken problem => rfl
  | statement number name rest inductionHypothesis => exact inductionHypothesis
  | branch number condition body alternative rest _ _ inductionHypothesis => exact inductionHypothesis
  | loop number condition body rest _ inductionHypothesis => exact inductionHypothesis
  | iterate number count body rest _ inductionHypothesis => exact inductionHypothesis

/-- A leaf is replaced in the same way where the lines are moved to. -/
theorem relocate_onDone {move : Nat → Nat} {leaf leaf' : Nat → Block} {block : Block}
    (same : ∀ last, block.ending = .ok last → (leaf last).relocate move = leaf' (move last)) :
    (block.onDone leaf).relocate move = (block.relocate move).onDone leaf' := by
  induction block with
  | done number => exact same number rfl
  | broken problem => rfl
  | statement number name rest inductionHypothesis => simp [onDone, relocate, inductionHypothesis same]
  | branch number condition body alternative rest _ _ inductionHypothesis =>
      simp [onDone, relocate, inductionHypothesis same]
  | loop number condition body rest _ inductionHypothesis => simp [onDone, relocate, inductionHypothesis same]
  | iterate number count body rest _ inductionHypothesis =>
      simp [onDone, relocate, inductionHypothesis same]

/-- Skipping does not look at line numbers. -/
theorem skip_relocate (move : Nat → Nat) (block : Block) (left : Nat) :
    (block.relocate move).skip left = relocateVerdict move (block.skip left) := by
  fun_induction skip left block with
  | case1 => rfl
  | case2 => rfl
  | case3 left number name rest inductionHypothesis => exact inductionHypothesis
  | _ => simp_all [relocate, skip, relocateVerdict, Stop.relocate]

end Block

namespace Line

variable (move : Nat → Nat) (line : Line) (number : Nat)

theorem checkIndent_relocate (depth : Int) :
    line.checkIndent (move number) depth = (line.checkIndent number depth).mapError (Fault.relocate move) := by
  rw [checkIndent, checkIndent]
  split
  · rfl
  · exact congrArg Except.error (Fault.relocate_onLine ..).symm

theorem checkTerminator_relocate (next : Option Line) :
    line.checkTerminator (move number) next =
      (line.checkTerminator number next).mapError (Fault.relocate move) := by
  simp only [checkTerminator]
  split
  · exact congrArg Except.error (Fault.relocate_onLine ..).symm
  · split
    · exact congrArg Except.error (Fault.relocate_onLine ..).symm
    · rfl

end Line

namespace Program

/-- The lines of a range, and the line behind it, stand in another program one after the other from where they
are moved to. -/
structure Moves (program program' : Program) (move : Nat → Nat) (start stop : Nat) : Prop where
  within : stop ≤ program.length
  lines : ∀ number, start ≤ number → number ≤ stop → program'[move number]? = program[number]?
  next : ∀ number, start ≤ number → number < stop → move (number + 1) = move number + 1

namespace Moves

variable {program program' : Program} {move : Nat → Nat} {start stop : Nat} {number : Nat}

/-- Lines keep their distance. -/
theorem add (moves : program.Moves program' move start stop) (behind : start ≤ number) (count : Nat)
    (inside : number + count ≤ stop) : move (number + count) = move number + count := by
  induction count with
  | zero => rfl
  | succ count inductionHypothesis =>
      rw [← Nat.add_assoc, moves.next _ (by omega) (by omega), inductionHypothesis (by omega), Nat.add_assoc]

/-- The end of the range is as far off as it was. -/
theorem stop_eq (moves : program.Moves program' move start stop) (behind : start ≤ number)
    (inside : number ≤ stop) : move stop = move number + (stop - number) := by
  have kept := moves.add behind (stop - number) (by omega)
  rwa [Nat.add_sub_cancel' inside] at kept

theorem narrow {start' stop' : Nat} (moves : program.Moves program' move start stop) (later : start ≤ start')
    (earlier : stop' ≤ stop) : program.Moves program' move start' stop' where
  within := Nat.le_trans earlier moves.within
  lines := fun number behind inside => moves.lines number (by omega) (by omega)
  next := fun number behind inside => moves.next number (by omega) (by omega)

/-- The line behind a line of the range stands behind it again. -/
theorem line_succ (moves : program.Moves program' move start stop) (behind : start ≤ number)
    (inside : number < stop) : program'[move number + 1]? = program[number + 1]? := by
  rw [← moves.next number behind inside]
  exact moves.lines (number + 1) (by omega) (by omega)

/-- Whether a line lies behind the end of the range is the same where it is moved to. -/
theorem stop_le_iff (moves : program.Moves program' move start stop) (behind : start ≤ number)
    (inside : number ≤ stop) (count : Nat) : move stop ≤ move number + count ↔ stop ≤ number + count := by
  have kept := moves.stop_eq behind inside
  omega

end Moves

section
variable {program program' : Program} {move : Nat → Nat} {start stop number : Nat} {depth : Int}
  {header : Header} {inside inside' next next' : Nat → Block} {block : Block}

theorem openBlock_relocate (moves : program.Moves program' move start stop) (behind : start ≤ number)
    (inRange : number < stop) :
    program'.openBlock header (move number) (move stop) depth =
      relocateVerdict move (program.openBlock header number stop depth) := by
  rw [openBlock, openBlock]
  simp only [moves.stop_le_iff behind (Nat.le_of_lt inRange)]
  split
  · simp [relocateVerdict]
  · rename_i room
    rw [moves.line_succ behind inRange]
    have second : move (number + 2) = move number + 2 := moves.add behind 2 (by omega)
    have first := moves.next number behind inRange
    cases program[number + 1]? with
    | none => simp [relocateVerdict, Stop.relocate, first]
    | some line =>
        simp only
        split
        · have indented := Line.checkIndent_relocate move line (number + 1) depth
          rw [first] at indented
          push_cast at indented
          rw [indented]
          cases line.checkIndent (number + 1) depth with
          | error fault => rfl
          | ok value => simp [mapError_ok, relocateVerdict, second]
        · simp [relocateVerdict]

/-- A body is closed in the same way where its lines are moved to. -/
theorem relocate_closeBody (moves : program.Moves program' move start stop)
    (bounds : ∀ last, block.ending = .ok last → start ≤ last ∧ last ≤ stop) :
    (closeBody header number stop block).relocate move =
      closeBody header (move number) (move stop) (block.relocate move) := by
  apply Block.relocate_onDone
  intro last ended
  obtain ⟨behind, inRange⟩ := bounds last ended
  have outside := moves.stop_le_iff behind inRange 0
  simp only [Nat.add_zero] at outside
  simp only [outside]
  split
  · simp
  · rfl

theorem relocate_body (moves : program.Moves program' move start stop) (behind : start ≤ number)
    (inRange : number < stop) (advances : Advances stop inside)
    (same : ∀ first, number < first → first ≤ stop → inside' (move first) = (inside first).relocate move) :
    (program.body header number stop depth inside).relocate move =
      program'.body header (move number) (move stop) depth inside' := by
  rw [body, body, openBlock_relocate moves behind inRange]
  cases opened : program.openBlock header number stop depth with
  | error problem => rfl
  | ok first =>
      obtain ⟨room, rfl, _⟩ := openBlock_eq_ok.mp opened
      simp only [relocateVerdict]
      rw [same (number + 2) (by omega) (by omega)]
      apply relocate_closeBody moves
      intro last ended
      have reached := advances (number + 2) last (by omega) ended
      omega

theorem checkTerminatorAt_relocate (moves : program.Moves program' move start stop) (behind : start ≤ number)
    (inRange : number < stop) :
    program'.checkTerminatorAt (move number) =
      (program.checkTerminatorAt number).mapError (Stop.relocate move) := by
  rw [checkTerminatorAt, checkTerminatorAt, moves.lines number behind (Nat.le_of_lt inRange),
    moves.line_succ behind inRange]
  cases program[number]? with
  | none => rfl
  | some line =>
      simp only [Line.checkTerminator_relocate]
      cases line.checkTerminator number program[number + 1]? <;> rfl

theorem relocate_afterBody (moves : program.Moves program' move start stop)
    (bounds : ∀ last, block.ending = .ok last → start ≤ last ∧ last < stop)
    (same : ∀ last, block.ending = .ok last → next' (move (last + 1)) = (next (last + 1)).relocate move) :
    (program.afterBody block next).relocate move = program'.afterBody (block.relocate move) next' := by
  rw [afterBody, afterBody, Block.ending_relocate]
  cases ended : block.ending with
  | error problem => rfl
  | ok last =>
      obtain ⟨behind, inRange⟩ := bounds last ended
      simp only [relocateVerdict, checkTerminatorAt_relocate moves behind inRange]
      cases program.checkTerminatorAt last with
      | error problem => rfl
      | ok value =>
          have following := same last ended
          rw [moves.next last behind inRange] at following
          exact following.symm

theorem relocate_alternative {build build' : Block → Block → Block}
    (moves : program.Moves program' move start stop) (behind : start ≤ number) (inRange : number ≤ stop)
    (advances : Advances stop inside)
    (sameInside : ∀ first, number < first → first ≤ stop →
      inside' (move first) = (inside first).relocate move)
    (sameNext : ∀ first, number ≤ first → first ≤ stop → next' (move first) = (next first).relocate move)
    (sameBuild : ∀ other rest, (build other rest).relocate move =
      build' (other.relocate move) (rest.relocate move)) :
    (program.alternative number stop depth inside build next).relocate move =
      program'.alternative (move number) (move stop) depth inside' build' next' := by
  have alone : (build (.done number) (next number)).relocate move =
      build' (.done (move number)) (next' (move number)) := by
    rw [sameBuild, sameNext number (Nat.le_refl _) inRange]
    rfl
  have room : move number < move stop ↔ number < stop := by
    have kept := moves.stop_eq behind inRange
    omega
  rw [alternative, alternative]
  simp only [room, moves.lines number behind inRange]
  split
  · rename_i early
    cases program[number]? with
    | none => exact sameBuild _ _
    | some line =>
        simp only
        split
        · rw [Line.checkIndent_relocate]
          cases line.checkIndent number depth with
          | error fault => exact sameBuild _ _
          | ok value =>
              simp only [mapError_ok]
              rw [sameBuild, ← relocate_body moves behind early advances sameInside]
              congr 1
              apply relocate_afterBody moves
              · intro last ended
                have reached := ending_body_bounds advances ended
                omega
              · intro last ended
                have reached := ending_body_bounds advances ended
                exact sameNext (last + 1) (by omega) (by omega)
        · exact alone
  · exact alone

/-- A step is read in the same way where its lines are moved to. -/
theorem relocate_step (moves : program.Moves program' move start stop) (behind : start ≤ number)
    (inRange : number < stop) (advances : Advances stop inside)
    (sameInside : ∀ first, number < first → first ≤ stop →
      inside' (move first) = (inside first).relocate move)
    (sameNext : ∀ first, number < first → first ≤ stop → next' (move first) = (next first).relocate move) :
    (program.step stop depth inside next number).relocate move =
      program'.step (move stop) depth inside' next' (move number) := by
  have sameBody (kind : Header) : (program.body kind number stop depth inside).relocate move =
      program'.body kind (move number) (move stop) depth inside' :=
    relocate_body moves behind inRange advances sameInside
  have sameOpened (kind : Header) (first : Nat)
      (opened : program.openBlock kind number stop depth = .ok first) :
      (closeBody kind number stop (inside first)).relocate move =
          closeBody kind (move number) (move stop) (inside' (move first)) ∧
        (program.afterBody (closeBody kind number stop (inside first)) next).relocate move =
          program'.afterBody (closeBody kind (move number) (move stop) (inside' (move first))) next' := by
    have bounds := openBlock_eq_ok.mp opened
    have closed : (closeBody kind number stop (inside first)).relocate move =
        closeBody kind (move number) (move stop) (inside' (move first)) := by
      rw [sameInside first (by omega) (by omega)]
      apply relocate_closeBody moves
      intro last ended
      have reached := advances first last (by omega) ended
      omega
    refine ⟨closed, ?_⟩
    rw [← closed]
    apply relocate_afterBody moves
    · intro last ended
      obtain ⟨ended, early⟩ := ending_closeBody_eq_ok.mp ended
      have reached := advances first last (by omega) ended
      omega
    · intro last ended
      obtain ⟨ended, early⟩ := ending_closeBody_eq_ok.mp ended
      have reached := advances first last (by omega) ended
      exact sameNext (last + 1) (by omega) (by omega)
  rw [step, step, moves.lines number behind (Nat.le_of_lt inRange), moves.line_succ behind inRange]
  cases program[number]? with
  | none => rfl
  | some line =>
      simp only [Line.checkIndent_relocate]
      cases line.checkIndent number depth with
      | error fault => rfl
      | ok value =>
          simp only [mapError_ok]
          cases line.kind with
          | statement name terminated =>
              simp only [Line.checkTerminator_relocate]
              cases line.checkTerminator number program[number + 1]? with
              | error fault => rfl
              | ok value =>
                  have following := sameNext (number + 1) (by omega) (by omega)
                  rw [moves.next number behind inRange] at following
                  simp only [mapError_ok, Block.relocate, following]
          | branch condition =>
              simp only [← sameBody, Block.ending_relocate]
              cases ended : (program.body .branch number stop depth inside).ending with
              | error problem => simp [relocateVerdict, Block.relocate]
              | ok last =>
                  have reached := ending_body_bounds advances ended
                  simp only [relocateVerdict, checkTerminatorAt_relocate moves (show start ≤ last by omega)
                    reached.2]
                  cases program.checkTerminatorAt last with
                  | error problem => rfl
                  | ok value =>
                      simp only [mapError_ok]
                      rw [← moves.next last (by omega) reached.2]
                      apply relocate_alternative moves (by omega) (by omega) advances
                      · intro first later within
                        exact sameInside first (by omega) within
                      · intro first later within
                        exact sameNext first (by omega) within
                      · intro other rest
                        rfl
          | loop condition =>
              simp only [openBlock_relocate moves behind inRange]
              cases opened : program.openBlock .loop number stop depth with
              | error problem => rfl
              | ok first =>
                  obtain ⟨closed, after⟩ := sameOpened .loop first opened
                  simp only [relocateVerdict, Block.relocate, closed, after]
          | iterate digits =>
              simp only [openBlock_relocate moves behind inRange]
              split
              · rfl
              · cases opened : program.openBlock .iterate number stop depth with
                | error problem => rfl
                | ok first =>
                    obtain ⟨closed, after⟩ := sameOpened .iterate first opened
                    simp only [relocateVerdict, Block.relocate, closed, after]
          | _ => exact Block.relocate_fault ..

/-- A block is read in the same way where its lines are moved to. -/
theorem relocate_block (moves : program.Moves program' move start stop) (behind : start ≤ number)
    (inRange : number ≤ stop) :
    (program.block number stop depth).relocate move = program'.block (move number) (move stop) depth := by
  induction distance : stop - number using Nat.strongRecOn generalizing number depth with
  | ind size inductionHypothesis =>
      by_cases early : number < stop
      · have within := moves.within
        have present : program[number]? = some program[number] := List.getElem?_eq_getElem (by omega)
        have present' := (moves.lines number behind inRange).trans present
        have room : move number < move stop := by
          have kept := moves.stop_eq behind inRange
          omega
        rw [block_eq_step early present, block_eq_step room present']
        split
        · rfl
        · apply relocate_step moves behind early
          · exact fun first last inside ended => ending_block_bounds inside ended
          · intro first later inside
            exact (inductionHypothesis (stop - first) (by omega) (by omega) inside rfl).symm
          · intro first later inside
            exact (inductionHypothesis (stop - first) (by omega) (by omega) inside rfl).symm
      · obtain rfl : number = stop := by omega
        rw [block_of_le (Nat.le_refl _), block_of_le (Nat.le_refl _)]
        rfl

/-- A section is read in the same way where its lines are moved to. -/
theorem relocate_sectionAt (moves : program.Moves program' move start stop) (ordered : start ≤ stop)
    (depth : Int) : (program.sectionAt start stop depth).relocate move =
      program'.sectionAt (move start) (move stop) depth := by
  rw [sectionAt, sectionAt, ← relocate_block moves (Nat.le_refl _) ordered]
  apply Block.relocate_onDone
  intro last ended
  obtain ⟨behind, inRange⟩ := ending_block_bounds ordered ended
  have early : move last < move stop ↔ last < stop := by
    have kept := moves.stop_eq behind inRange
    omega
  simp only [early]
  split
  · simp
  · rfl

/-- The lines of a range are the same list where they are moved to. -/
theorem Moves.take_drop_eq (moves : program.Moves program' move start stop) (ordered : start ≤ stop) :
    (program'.drop (move start)).take (stop - start) = (program.drop start).take (stop - start) := by
  apply List.ext_getElem?
  intro offset
  rw [List.getElem?_take, List.getElem?_take]
  split
  · rename_i inside
    rw [List.getElem?_drop, List.getElem?_drop, ← moves.add (Nat.le_refl start) offset (by omega)]
    exact moves.lines (start + offset) (by omega) (by omega)
  · rfl

/-- The bodies of all instructions are moved, and the other registry finds them where they are moved to. -/
structure Relocates (program program' : Program) (registry registry' : Registry) (move : Nat → Nat) : Prop where
  missing : ∀ name, registry.find? name = none → registry'.find? name = none
  found : ∀ name span, registry.find? name = some span → ∃ span', registry'.find? name = some span' ∧
    span'.start = move span.start ∧ span'.stop = move span.stop ∧
    program.Moves program' move span.start span.stop

/-- A body calls itself on the same line, where that is moved to. -/
theorem selfCall?_relocate {span span' : Span} (moves : program.Moves program' move span.start span.stop)
    (first : span'.start = move span.start) (last : span'.stop = move span.stop) (name : String) :
    program'.selfCall? name span' = (program.selfCall? name span).map move := by
  have size : span'.length = span.length := by
    have kept := moves.stop_eq (Nat.le_refl _) span.start_le_stop
    rw [Span.length, Span.length]
    omega
  rw [selfCall?, selfCall?, size, first, Span.length, moves.take_drop_eq span.start_le_stop, Option.map_map]
  cases found : ((program.drop span.start).take (span.stop - span.start)).findIdx? (calls name) with
  | none => rfl
  | some offset =>
      obtain ⟨inside, _⟩ := List.findIdx?_eq_some_iff_getElem.mp found
      simp only [List.length_take, List.length_drop] at inside
      have kept := moves.add (Nat.le_refl span.start) offset (by omega)
      simp [kept]

/-- Moved instructions and a moved block run in the same way: the same actions are done, and the run ends on
the line that the end is moved to, or stops with the same problem there. -/
theorem execute_relocate {registry registry' : Registry}
    (relocates : program.Relocates program' registry registry' move) (fuel left : Nat) (block : Block)
    (progress : Progress) :
    program'.execute registry' fuel left (block.relocate move) progress =
      (program.execute registry fuel left block progress).relocate move := by
  fun_induction execute program registry fuel left block progress with
  | case1 => rfl
  | case2 => rfl
  | case3 => rfl
  | case4 fuel left number name rest progress action known hindrance failed =>
      simp [Block.relocate, execute, known, failed, Outcome.relocate]
  | case5 fuel left number name rest progress action known world performed after =>
      simp [Block.relocate, execute, known, performed, after]
  | case6 fuel left number name rest progress other missing =>
      simp [Block.relocate, execute, other, relocates.missing name missing, Outcome.relocate]
  | case7 fuel left number name rest progress other span found guilty calls =>
      obtain ⟨span', found', first, last, moves⟩ := relocates.found name span found
      have calls' := selfCall?_relocate moves first last name
      simp [Block.relocate, execute, other, found', calls', calls, Outcome.relocate]
  | case8 fuel left number name rest progress other span found sober refused =>
      obtain ⟨span', found', first, last, moves⟩ := relocates.found name span found
      have sober' := selfCall?_relocate moves first last name
      simp [Block.relocate, execute, other, found', sober', sober, refused, Outcome.relocate, Stop.relocate]
  | case9 fuel left number name rest progress other span found sober inner entered called problem reached ran
      body =>
      obtain ⟨span', found', first, last, moves⟩ := relocates.found name span found
      have sober' := selfCall?_relocate moves first last name
      have called' := relocate_sectionAt moves span.start_le_stop instructionDepth
      rw [ran] at body
      simp [Block.relocate, execute, other, found', sober', sober, entered, first, last, ← called', called, body,
        Outcome.relocate]
  | case10 fuel left number name rest progress other span found sober inner entered called close reached ran
      body after =>
      obtain ⟨span', found', first, last, moves⟩ := relocates.found name span found
      have sober' := selfCall?_relocate moves first last name
      have called' := relocate_sectionAt moves span.start_le_stop instructionDepth
      rw [ran] at body
      simp [Block.relocate, execute, other, found', sober', sober, entered, first, last, ← called', called, body,
        after, Outcome.relocate]
  | _ => simp_all [Block.relocate, execute, Block.skip_relocate, relocateVerdict, Outcome.relocate, Stop.relocate]

end

end Program

end GridRobot
