import GridRobot.Proofs.Skipping

namespace GridRobot

namespace LineKind

/-- What a line adds to the number of open blocks. -/
def weight : LineKind → Int
  | .opening => 1
  | .closing _ => -1
  | _ => 0

theorem weight_eq_zero {kind : LineKind} (unopened : kind ≠ .opening)
    (unclosed : ∀ terminated, kind ≠ .closing terminated) : kind.weight = 0 := by
  cases kind with
  | opening => exact absurd rfl unopened
  | closing terminated => exact absurd rfl (unclosed terminated)
  | _ => rfl

theorem isClosing_iff {kind : LineKind} : kind.isClosing = true ↔ ∃ terminated, kind = .closing terminated := by
  cases kind <;> simp [isClosing]

end LineKind

namespace Program

/-- How many blocks are open behind lines, if so many are open in front of them. -/
def levelFrom (program : Program) (before : Int) : Int :=
  program.foldl (fun level line => level + line.kind.weight) before

/-- How many blocks are open in front of a line: opening lines less closing lines. -/
def level (program : Program) (number : Nat) : Int :=
  levelFrom (program.take number) 0

section
variable {program : Program} {number : Nat} {kind : LineKind}

theorem hasKindAt_iff : program.hasKindAt number kind = true ↔
    ∃ line, program[number]? = some line ∧ line.kind = kind := by
  rw [hasKindAt]
  cases program[number]? <;> simp

theorem lt_length_of_hasKindAt (holds : program.hasKindAt number kind = true) : number < program.length := by
  obtain ⟨line, present, _⟩ := hasKindAt_iff.mp holds
  exact (List.getElem?_eq_some_iff.mp present).1

/-- A line moves the level by its weight. -/
theorem level_succ (holds : program.hasKindAt number kind = true) :
    program.level (number + 1) = program.level number + kind.weight := by
  obtain ⟨line, present, rfl⟩ := hasKindAt_iff.mp holds
  simp [level, levelFrom, List.take_add_one, present]

/-- Lines that make up for the open blocks leave none open. -/
theorem levelFrom_of_balanceFrom {openBlocks : List Nat}
    (balanced : balanceFrom openBlocks number program = .ok ()) : program.levelFrom openBlocks.length = 0 := by
  fun_induction balanceFrom openBlocks number program with
  | case1 => rfl
  | case2 => cases balanced
  | case3 openBlocks number line rest kind inductionHypothesis =>
      rw [levelFrom, List.foldl_cons, kind]
      exact inductionHypothesis balanced
  | case4 => cases balanced
  | case5 number line rest terminated kind opened outer inductionHypothesis =>
      have lowered : ((opened :: outer).length : Int) + (LineKind.closing terminated).weight = outer.length := by
        simp only [List.length_cons, LineKind.weight]
        omega
      rw [levelFrom, List.foldl_cons, kind, lowered]
      exact inductionHypothesis balanced
  | case6 openBlocks number line rest unopened unclosed inductionHypothesis =>
      rw [levelFrom, List.foldl_cons, LineKind.weight_eq_zero unopened unclosed, Int.add_zero]
      exact inductionHypothesis balanced

/-- Behind the last line of a balanced program no block is open. -/
theorem level_length (balanced : program.checkBalance = .ok ()) : program.level program.length = 0 := by
  rw [level, List.take_length]
  exact levelFrom_of_balanceFrom balanced

end

/-- What is wrong with the text of a program: a structural fault on one of its lines, or a count with
too many digits. -/
inductive Rejects (program : Program) : Stop → Prop where
  | fault {cause : Cause} {number : Nat} (inside : number < program.length)
      (structural : cause.faultClass = .structural ∨ cause.faultClass = .terminator) :
      Rejects program (.fault (.onLine cause number))
  | digits {number : Nat} {digits : String} (holds : program.hasKindAt number (.iterate digits) = true)
      (long : Numeral.maxDigits < Numeral.countDigits digits.toList) :
      Rejects program (.tooManyDigits (Numeral.countDigits digits.toList))

end Program

namespace Block

/-- Every step of the block is what its line says, and where the block is malformed the text is. -/
def Follows (program : Program) : Block → Prop
  | .done _ => True
  | .broken problem => program.Rejects problem
  | .statement number name rest =>
    (∃ terminated, program.hasKindAt number (.statement name terminated) = true) ∧ rest.Follows program
  | .branch number condition body alternative rest =>
    program.hasKindAt number (.branch condition) = true ∧ body.Follows program ∧
      alternative.Follows program ∧ rest.Follows program
  | .loop number condition body rest =>
    program.hasKindAt number (.loop condition) = true ∧ body.Follows program ∧ rest.Follows program
  | .iterate _ _ body rest => body.Follows program ∧ rest.Follows program

namespace Follows

variable {program : Program} {block : Block}

/-- Another leaf changes a block only where it ends. -/
theorem onDone {leaf : Nat → Block} (follows : block.Follows program)
    (leafFollows : ∀ last, block.ending = .ok last → (leaf last).Follows program) :
    (block.onDone leaf).Follows program := by
  induction block with
  | done number => exact leafFollows number rfl
  | broken problem => exact follows
  | statement number name rest inductionHypothesis =>
      exact ⟨follows.1, inductionHypothesis follows.2 leafFollows⟩
  | branch number condition body alternative rest _ _ inductionHypothesis =>
      exact ⟨follows.1, follows.2.1, follows.2.2.1, inductionHypothesis follows.2.2.2 leafFollows⟩
  | loop number condition body rest _ inductionHypothesis =>
      exact ⟨follows.1, follows.2.1, inductionHypothesis follows.2.2 leafFollows⟩
  | iterate number count body rest _ inductionHypothesis =>
      exact ⟨follows.1, inductionHypothesis follows.2 leafFollows⟩

/-- A block without an end breaks where the text does. -/
theorem rejects_of_ending {problem : Stop} (follows : block.Follows program)
    (broken : block.ending = .error problem) : program.Rejects problem := by
  induction block with
  | done number => cases broken
  | broken stop =>
      cases broken
      exact follows
  | statement number name rest inductionHypothesis => exact inductionHypothesis follows.2 broken
  | branch number condition body alternative rest _ _ inductionHypothesis =>
      exact inductionHypothesis follows.2.2.2 broken
  | loop number condition body rest _ inductionHypothesis => exact inductionHypothesis follows.2.2 broken
  | iterate number count body rest _ inductionHypothesis => exact inductionHypothesis follows.2 broken

/-- Skipping a block stops where the text breaks, unless the block nests too deeply. -/
theorem rejects_of_skip {left : Nat} {problem : Stop} (follows : block.Follows program)
    (unread : block.skip left = .error problem) : program.Rejects problem ∨ problem = .nestingTooDeep := by
  fun_induction skip left block with
  | case1 => cases unread
  | case2 =>
      cases unread
      exact Or.inl follows
  | case3 left number name rest inductionHypothesis => exact inductionHypothesis follows.2 unread
  | case4 =>
      cases unread
      exact Or.inr rfl
  | case5 left number condition body alternative rest inner entered stop bodyUnread bodyHypothesis =>
      cases unread
      exact bodyHypothesis follows.2.1 bodyUnread
  | case6 left number condition body alternative rest inner entered last skipped stop alternativeUnread
      bodyHypothesis alternativeHypothesis =>
      cases unread
      exact alternativeHypothesis follows.2.2.1 alternativeUnread
  | case7 left number condition body alternative rest inner entered last skipped last' skipped'
      bodyHypothesis alternativeHypothesis restHypothesis => exact restHypothesis follows.2.2.2 unread
  | case8 =>
      cases unread
      exact Or.inr rfl
  | case9 left number condition body rest inner entered stop bodyUnread bodyHypothesis =>
      cases unread
      exact bodyHypothesis follows.2.1 bodyUnread
  | case10 left number condition body rest inner entered last skipped bodyHypothesis restHypothesis =>
      exact restHypothesis follows.2.2 unread
  | case11 =>
      cases unread
      exact Or.inr rfl
  | case12 left number count body rest inner entered stop bodyUnread bodyHypothesis =>
      cases unread
      exact bodyHypothesis follows.1 bodyUnread
  | case13 left number count body rest inner entered last skipped bodyHypothesis restHypothesis =>
      exact restHypothesis follows.2 unread

end Follows

end Block

namespace Line

/-- A wrong indent is a fault of its line. -/
theorem rejects_of_checkIndent {program : Program} {line : Line} {number : Nat} {depth : Int} {fault : Fault}
    (inside : number < program.length) (refused : line.checkIndent number depth = .error fault) :
    program.Rejects (.fault fault) := by
  rw [checkIndent] at refused
  split at refused
  · cases refused
  · cases refused
    exact .fault inside (Or.inl rfl)

/-- A wrong terminator is a fault of its line. -/
theorem rejects_of_checkTerminator {program : Program} {line : Line} {number : Nat} {next : Option Line}
    {fault : Fault} (inside : number < program.length)
    (refused : line.checkTerminator number next = .error fault) : program.Rejects (.fault fault) := by
  simp only [checkTerminator] at refused
  split at refused
  · cases refused
    exact .fault inside (Or.inr rfl)
  · split at refused
    · cases refused
      exact .fault inside (Or.inr rfl)
    · cases refused

end Line

namespace Program

/-- A block is read from the lines behind `first`. It ends at the level that it starts at, where its range
ends or a line closes it. If the range leaves no more blocks open than there are at its start, the block
follows the text. -/
structure Reads (program : Program) (stop first : Nat) (block : Block) : Prop where
  ends : ∀ last, block.ending = .ok last → program.level last = program.level first ∧
    (last = stop ∨ ∃ terminated, program.hasKindAt last (.closing terminated) = true)
  follows : program.level stop ≤ program.level first → block.Follows program

/-- A body stands behind its header. Behind the line that closes it the level is that of the header. -/
structure Closes (program : Program) (stop number : Nat) (body : Block) : Prop where
  ends : ∀ last, body.ending = .ok last →
    number < last ∧ last < stop ∧ program.level (last + 1) = program.level number
  follows : program.level stop ≤ program.level number → body.Follows program

section
variable {program : Program} {header : Header} {number stop first : Nat} {depth : Int} {kind : LineKind}
  {body : Block}

/-- A header without a block is a fault of its line or of the next. -/
theorem rejects_of_openBlock {problem : Stop} (inRange : number < stop) (within : stop ≤ program.length)
    (refused : program.openBlock header number stop depth = .error problem) : program.Rejects problem := by
  rw [openBlock] at refused
  split at refused
  · cases refused
    exact .fault (by omega) (Or.inl rfl)
  · split at refused
    · rename_i absent
      rw [List.getElem?_eq_none_iff] at absent
      omega
    · split at refused
      · split at refused
        · rename_i unaligned
          cases refused
          have inside : number + 1 < program.length := by omega
          exact Line.rejects_of_checkIndent inside unaligned
        · cases refused
      · cases refused
        exact .fault (by omega) (Or.inl rfl)

theorem rejects_of_checkTerminatorAt {problem : Stop} (inside : number < program.length)
    (refused : program.checkTerminatorAt number = .error problem) : program.Rejects problem := by
  rw [checkTerminatorAt, List.getElem?_eq_getElem inside] at refused
  simp only at refused
  cases checked : program[number].checkTerminator number program[number + 1]? with
  | ok value =>
      rw [checked] at refused
      cases refused
  | error fault =>
      rw [checked] at refused
      cases refused
      exact Line.rejects_of_checkTerminator inside checked

/-- A body that is opened raises the level by one, so a range that leaves no more blocks open than there
are in front of the header cannot run out inside the body. -/
theorem closes_closeBody (holds : program.hasKindAt number kind = true) (light : kind.weight = 0)
    (opened : program.openBlock header number stop depth = .ok first)
    (deeper : ∀ first, number < first → first ≤ stop →
      program.Reads stop first (program.block first stop (depth + 1))) :
    program.Closes stop number (closeBody header number stop (program.block first stop (depth + 1))) := by
  obtain ⟨room, rfl, line, present, opening, _⟩ := openBlock_eq_ok.mp opened
  have reads := deeper (number + 2) (by omega) (by omega)
  have raised : program.level (number + 2) = program.level number + 1 := by
    rw [level_succ (hasKindAt_iff.mpr ⟨line, present, opening⟩), level_succ holds, light]
    simp [LineKind.weight]
  constructor
  · intro last ended
    obtain ⟨ended, inRange⟩ := ending_closeBody_eq_ok.mp ended
    obtain ⟨forward, _⟩ := ending_block_bounds (by omega) ended
    obtain ⟨same, finished⟩ := reads.ends last ended
    obtain ⟨terminated, closing⟩ := finished.resolve_left (by omega)
    refine ⟨by omega, inRange, ?_⟩
    rw [level_succ closing, same, raised]
    exact Int.add_neg_cancel_right _ _
  · intro low
    apply (reads.follows (by omega)).onDone
    intro last ended
    obtain ⟨_, inside⟩ := ending_block_bounds (by omega) ended
    have same := (reads.ends last ended).1
    by_cases outside : stop ≤ last
    · obtain rfl : last = stop := by omega
      omega
    · rw [if_neg outside]
      exact trivial

/-- The body of a header closes, or the text is wrong. -/
theorem closes_body (inRange : number < stop) (within : stop ≤ program.length)
    (holds : program.hasKindAt number kind = true) (light : kind.weight = 0)
    (deeper : ∀ first, number < first → first ≤ stop →
      program.Reads stop first (program.block first stop (depth + 1))) :
    program.Closes stop number
      (program.body header number stop depth fun first => program.block first stop (depth + 1)) := by
  rw [Program.body]
  cases opened : program.openBlock header number stop depth with
  | error problem =>
      refine ⟨?_, fun _ => rejects_of_openBlock inRange within opened⟩
      intro last ended
      cases ended
  | ok first => exact closes_closeBody holds light opened deeper

/-- A block without an end only has to follow the text. -/
theorem Reads.of_ending {block : Block} {problem : Stop} (broken : block.ending = .error problem)
    (follows : program.level stop ≤ program.level first → block.Follows program) :
    program.Reads stop first block := by
  refine ⟨?_, follows⟩
  intro last ended
  rw [broken] at ended
  cases ended

theorem Reads.of_rejects {problem : Stop} (rejects : program.Rejects problem) :
    program.Reads stop first (.broken problem) :=
  .of_ending rfl fun _ => rejects

/-- A block is read from any line at the same level. -/
theorem Reads.of_level {block : Block} (reads : program.Reads stop first block)
    (same : program.level first = program.level number) : program.Reads stop number block := by
  obtain ⟨ends, follows⟩ := reads
  rw [same] at ends follows
  exact ⟨ends, follows⟩

/-- Behind a body that closes, the lines after it are read at the level of the header. -/
theorem reads_afterBody (within : stop ≤ program.length) (closes : program.Closes stop number body)
    (later : ∀ first, number < first → first ≤ stop →
      program.Reads stop first (program.block first stop depth)) :
    program.Reads stop number (program.afterBody body fun first => program.block first stop depth) := by
  rw [afterBody]
  cases ended : body.ending with
  | error problem => exact .of_ending rfl fun low => (closes.follows low).rejects_of_ending ended
  | ok last =>
      obtain ⟨behind, inRange, same⟩ := closes.ends last ended
      simp only
      cases checked : program.checkTerminatorAt last with
      | error problem => exact .of_rejects (rejects_of_checkTerminatorAt (by omega) checked)
      | ok value => exact (later (last + 1) (by omega) (by omega)).of_level same

/-- Behind the body of a branch an alternative may follow at the same level. -/
theorem reads_alternative {condition : String} (inRange : first ≤ stop) (within : stop ≤ program.length)
    (behind : number < first) (same : program.level first = program.level number)
    (holds : program.hasKindAt number (.branch condition) = true)
    (bodyFollows : program.level stop ≤ program.level number → body.Follows program)
    (deeper : ∀ first, number < first → first ≤ stop →
      program.Reads stop first (program.block first stop (depth + 1)))
    (later : ∀ first, number < first → first ≤ stop →
      program.Reads stop first (program.block first stop depth)) :
    program.Reads stop number
      (program.alternative first stop depth (fun first => program.block first stop (depth + 1))
        (.branch number condition body) fun first => program.block first stop depth) := by
  -- Without an alternative the branch is followed by the block behind its body.
  have alone : program.Reads stop number
      (.branch number condition body (.done first) (program.block first stop depth)) := by
    have reads := (later first behind inRange).of_level same
    exact ⟨reads.ends, fun low => ⟨holds, bodyFollows low, trivial, reads.follows low⟩⟩
  rw [alternative]
  split
  · rename_i inside
    rw [List.getElem?_eq_getElem (by omega)]
    simp only
    split
    · rename_i kind
      have otherwise : program.hasKindAt first .otherwise = true :=
        hasKindAt_iff.mpr ⟨_, List.getElem?_eq_getElem (by omega), kind⟩
      split
      · rename_i fault unaligned
        have rejects : program.Rejects (.fault fault) := Line.rejects_of_checkIndent (by omega) unaligned
        exact .of_ending rfl fun low => ⟨holds, bodyFollows low, trivial, rejects⟩
      · have closes : program.Closes stop first (program.body .otherwise first stop depth
            fun first => program.block first stop (depth + 1)) :=
          closes_body inside within otherwise rfl fun place farther => deeper place (by omega)
        have reads := (reads_afterBody within closes fun place farther => later place (by omega)).of_level same
        refine ⟨reads.ends, fun low => ⟨holds, bodyFollows low, closes.follows ?_, reads.follows low⟩⟩
        rw [same]
        exact low
    · exact alone
  · exact alone

/-- The step on a line is read at the level in front of it. -/
theorem reads_step (inRange : number < stop) (within : stop ≤ program.length)
    (deeper : ∀ first, number < first → first ≤ stop →
      program.Reads stop first (program.block first stop (depth + 1)))
    (later : ∀ first, number < first → first ≤ stop →
      program.Reads stop first (program.block first stop depth)) :
    program.Reads stop number
      (program.step stop depth (fun first => program.block first stop (depth + 1))
        (fun first => program.block first stop depth) number) := by
  have inside : number < program.length := by omega
  have present := List.getElem?_eq_getElem inside
  generalize program[number] = line at present
  have stray {cause : Cause} (structural : cause.faultClass = .structural) :
      program.Reads stop number (Block.fault cause number) := .of_rejects (.fault inside (Or.inl structural))
  rw [step, present]
  simp only
  split
  · rename_i fault unaligned
    exact .of_rejects (Line.rejects_of_checkIndent inside unaligned)
  · split
    · rename_i name terminated kind
      split
      · rename_i fault unpunctuated
        exact .of_rejects (Line.rejects_of_checkTerminator inside unpunctuated)
      · have holds := hasKindAt_iff.mpr ⟨line, present, kind⟩
        have reads := (later (number + 1) (by omega) (by omega)).of_level
          ((level_succ holds).trans (Int.add_zero _))
        exact ⟨reads.ends, fun low => ⟨⟨terminated, holds⟩, reads.follows low⟩⟩
    · rename_i condition kind
      have holds := hasKindAt_iff.mpr ⟨line, present, kind⟩
      have closes : program.Closes stop number (program.body .branch number stop depth
          fun first => program.block first stop (depth + 1)) := closes_body inRange within holds rfl deeper
      split
      · rename_i problem ended
        refine .of_ending rfl fun low => ?_
        have rejects := (closes.follows low).rejects_of_ending ended
        exact ⟨holds, closes.follows low, rejects, rejects⟩
      · rename_i last ended
        obtain ⟨behind, closed, same⟩ := closes.ends last ended
        split
        · rename_i problem unpunctuated
          have rejects := rejects_of_checkTerminatorAt (by omega) unpunctuated
          exact .of_ending rfl fun low => ⟨holds, closes.follows low, trivial, rejects⟩
        · exact reads_alternative (by omega) within (by omega) same holds closes.follows deeper later
    · rename_i condition kind
      have holds := hasKindAt_iff.mpr ⟨line, present, kind⟩
      split
      · rename_i problem unopened
        exact .of_rejects (rejects_of_openBlock inRange within unopened)
      · rename_i first opened
        have closes := closes_closeBody holds rfl opened deeper
        have reads := reads_afterBody within closes later
        exact ⟨reads.ends, fun low => ⟨holds, closes.follows low, reads.follows low⟩⟩
    · rename_i digits kind
      have holds := hasKindAt_iff.mpr ⟨line, present, kind⟩
      split
      · rename_i long
        exact .of_rejects (.digits holds long)
      · split
        · rename_i problem unopened
          exact .of_rejects (rejects_of_openBlock inRange within unopened)
        · rename_i first opened
          have closes := closes_closeBody holds rfl opened deeper
          have reads := reads_afterBody within closes later
          exact ⟨reads.ends, fun low => ⟨closes.follows low, reads.follows low⟩⟩
    all_goals exact stray rfl

/-- Every block of a program is read at the level of its first line. -/
theorem reads_block (ordered : number ≤ stop) (within : stop ≤ program.length) :
    program.Reads stop number (program.block number stop depth) := by
  -- Bodies and what follows them start further down, at any depth, so the induction is on the range that is left.
  induction distance : stop - number using Nat.strongRecOn generalizing number depth with
  | ind size inductionHypothesis =>
      by_cases inRange : number < stop
      · have present : program[number]? = some program[number] := List.getElem?_eq_getElem (by omega)
        rw [block_eq_step inRange present]
        split
        · rename_i closes
          rw [Bool.and_eq_true, LineKind.isClosing_iff] at closes
          obtain ⟨⟨terminated, closing⟩, _⟩ := closes
          refine ⟨fun last ended => ?_, fun _ => trivial⟩
          cases ended
          exact ⟨rfl, Or.inr ⟨terminated, hasKindAt_iff.mpr ⟨_, present, closing⟩⟩⟩
        · exact reads_step inRange within
            (fun first behind inside => inductionHypothesis (stop - first) (by omega) inside rfl)
            (fun first behind inside => inductionHypothesis (stop - first) (by omega) inside rfl)
      · rw [block_of_le (by omega)]
        obtain rfl : number = stop := by omega
        refine ⟨fun last ended => ?_, fun _ => trivial⟩
        cases ended
        exact ⟨rfl, Or.inl rfl⟩

/-- A section follows the text if it leaves no more blocks open than there are at its start. -/
theorem follows_sectionAt (ordered : number ≤ stop) (within : stop ≤ program.length)
    (low : program.level stop ≤ program.level number) :
    (program.sectionAt number stop depth).Follows program := by
  apply ((reads_block ordered within).follows low).onDone
  intro last ended
  by_cases early : last < stop
  · rw [if_pos early]
    exact .fault (by omega) (Or.inl rfl)
  · rw [if_neg early]
    exact trivial

/-- The markers of a program stand on its first line and its last three. -/
theorem hasKindAt_of_checkSkeleton (checked : program.checkSkeleton = .ok ()) :
    3 ≤ program.length ∧ program.hasKindAt 0 .programStart = true ∧
      program.hasKindAt (program.length - 1) .programEnd = true ∧
      program.hasKindAt (program.length - 2) .executionEnd = true ∧
      program.hasKindAt (program.length - 3) .turnoff = true := by
  simp only [checkSkeleton] at checked
  split at checked
  · cases checked
  · rename_i long
    split at checked
    · cases checked
    · split at checked
      · cases checked
      · split at checked
        · cases checked
        · split at checked
          · cases checked
          · simp_all

/-- A missing marker is a fault of the line that should be the marker. -/
theorem rejects_of_checkSkeleton {fault : Fault} (long : 3 ≤ program.length)
    (refused : program.checkSkeleton = .error fault) : program.Rejects (.fault fault) := by
  simp only [checkSkeleton, if_neg (Nat.not_lt.mpr long)] at refused
  split at refused
  · cases refused
    exact .fault (by omega) (Or.inl rfl)
  · split at refused
    · cases refused
      exact .fault (by omega) (Or.inl rfl)
    · split at refused
      · cases refused
        exact .fault (by omega) (Or.inl rfl)
      · split at refused
        · cases refused
          exact .fault (by omega) (Or.inl rfl)
        · cases refused

/-- Blocks that do not pair up are a fault of an opening line or a closing line. -/
theorem rejects_of_balanceFrom {openBlocks : List Nat} {rest : Program} {fault : Fault}
    (size : number + rest.length = program.length) (earlier : ∀ place ∈ openBlocks, place < number)
    (refused : balanceFrom openBlocks number rest = .error fault) : program.Rejects (.fault fault) := by
  fun_induction balanceFrom openBlocks number rest with
  | case1 => cases refused
  | case2 place outer number =>
      cases refused
      have inside := earlier place List.mem_cons_self
      exact .fault (by omega) (Or.inl rfl)
  | case3 openBlocks number line rest kind inductionHypothesis =>
      rw [List.length_cons] at size
      apply inductionHypothesis (by omega) _ refused
      rw [List.forall_mem_cons]
      exact ⟨Nat.lt_succ_self number, fun place member => Nat.lt_succ_of_lt (earlier place member)⟩
  | case4 number line rest terminated kind =>
      rw [List.length_cons] at size
      cases refused
      exact .fault (by omega) (Or.inl rfl)
  | case5 number line rest terminated kind opened outer inductionHypothesis =>
      rw [List.length_cons] at size
      rw [List.forall_mem_cons] at earlier
      exact inductionHypothesis (by omega) (fun place member => Nat.lt_succ_of_lt (earlier.2 place member))
        refused
  | case6 openBlocks number line rest unopened unclosed inductionHypothesis =>
      rw [List.length_cons] at size
      exact inductionHypothesis (by omega) (fun place member => Nat.lt_succ_of_lt (earlier place member)) refused

/-- What is wrong with the markers or the balance of a program is wrong on one of its lines. -/
theorem rejects_of_checkMarkers {problem : Stop} (long : 3 ≤ program.length)
    (refused : program.checkMarkers = .error problem) : program.Rejects problem := by
  rw [checkMarkers] at refused
  split at refused
  · rename_i fault unmarked
    cases refused
    exact rejects_of_checkSkeleton long unmarked
  · split at refused
    · rename_i fault unbalanced
      cases refused
      exact rejects_of_balanceFrom (Nat.zero_add _) (List.forall_mem_nil _) unbalanced
    · cases refused

/-- Between the first line of a program that passes its checks and its turnoff line no block is left open:
the level is zero at both. -/
theorem level_of_checkMarkers (marked : program.checkMarkers = .ok ()) :
    3 ≤ program.length ∧ program.level 1 = 0 ∧ program.level program.turnoffNumber = 0 := by
  rw [checkMarkers] at marked
  split at marked
  · cases marked
  · rename_i checked
    split at marked
    · cases marked
    · rename_i balanced
      obtain ⟨long, start, stop, executed, turnoff⟩ := hasKindAt_of_checkSkeleton checked
      -- The three lines from the turnoff line on neither open nor close a block.
      have afterTurnoff := level_succ turnoff
      have afterExecution := level_succ executed
      have afterProgram := level_succ stop
      rw [show program.length - 3 + 1 = program.length - 2 by omega] at afterTurnoff
      rw [show program.length - 2 + 1 = program.length - 1 by omega] at afterExecution
      rw [show program.length - 1 + 1 = program.length by omega, level_length balanced] at afterProgram
      refine ⟨long, level_succ start, ?_⟩
      show program.level (program.length - 3) = 0
      simp only [LineKind.weight] at afterTurnoff afterExecution afterProgram
      omega

end

end Program

end GridRobot
