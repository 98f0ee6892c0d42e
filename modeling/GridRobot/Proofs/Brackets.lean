import GridRobot.Proofs.Matching
import GridRobot.Proofs.Relocation
import Mathlib.Data.Nat.Find

namespace GridRobot

/-- A line that opens or closes a block. -/
def LineKind.isBracket (kind : LineKind) : Bool :=
  kind = .opening || kind.isClosing

theorem LineKind.isBracket_iff {kind : LineKind} :
    kind.isBracket = true ↔ kind = .opening ∨ ∃ terminated, kind = .closing terminated := by
  simp [isBracket, isClosing_iff]

theorem LineKind.closing_of_weight_neg {kind : LineKind} (negative : kind.weight < 0) :
    ∃ terminated, kind = .closing terminated := by
  cases kind <;> simp_all [weight]

namespace Program

/-- How many of the lines open a block. -/
def openings (lines : Program) : Nat :=
  lines.countP fun line => line.kind = .opening

/-- How many of the lines close a block. -/
def closings (lines : Program) : Nat :=
  lines.countP fun line => line.kind.isClosing

/-- An opening line and a later closing line match if the lines between them are well bracketed. -/
structure Matches (program : Program) (opening closing : Nat) : Prop where
  opens : program.hasKindAt opening .opening = true
  closes : ∃ terminated, program.hasKindAt closing (.closing terminated) = true
  ordered : opening < closing
  between : WellBracketed (program.extract (opening + 1) closing)

/-- With this closing line, for the first time, more blocks have been closed than opened. -/
structure FirstExcess (program : Program) (number : Nat) : Prop where
  closes : ∃ terminated, program.hasKindAt number (.closing terminated) = true
  excess : openings (program.take (number + 1)) < closings (program.take (number + 1))
  earlier : ∀ count ≤ number, closings (program.take count) ≤ openings (program.take count)

/-- No closing line matches this opening line, and every opening line behind it has a match. -/
structure LastUnmatched (program : Program) (number : Nat) : Prop where
  opens : program.hasKindAt number .opening = true
  unmatched : ∀ closing, ¬ program.Matches number closing
  later : ∀ opening, number < opening → program.hasKindAt opening .opening = true →
    ∃ closing, program.Matches opening closing

/-- The lines that open and close blocks, without the others. -/
def bracketLines (program : Program) : Program :=
  program.filter fun line => line.kind.isBracket

/-- The number that a line has among the lines that open and close blocks. -/
def bracketsBefore (program : Program) (number : Nat) : Nat :=
  (bracketLines (program.take number)).length

section
variable {program : Program} {number first last opening closing : Nat}

/-- The level is raised by the lines that open a block and lowered by those that close one. -/
theorem levelFrom_eq (lines : Program) (before : Int) :
    lines.levelFrom before = before + lines.openings - lines.closings := by
  induction lines generalizing before with
  | nil => simp [levelFrom, openings, closings]
  | cons line rest inductionHypothesis =>
      have onward := inductionHypothesis (before + line.kind.weight)
      have opened : openings (line :: rest) = openings rest + if line.kind = .opening then 1 else 0 := by
        simp [openings, List.countP_cons]
      have closed : closings (line :: rest) = closings rest + if line.kind.isClosing then 1 else 0 := by
        simp [closings, List.countP_cons]
      rw [levelFrom, List.foldl_cons, ← levelFrom, onward, opened, closed]
      cases line.kind <;> simp [LineKind.weight, LineKind.isClosing] <;> omega

theorem level_eq (program : Program) (number : Nat) :
    program.level number = openings (program.take number) - closings (program.take number) := by
  rw [level, levelFrom_eq, Int.zero_add]

/-- A part from the front has no more closing than opening lines exactly if the level behind it is not negative. -/
theorem level_nonneg_iff :
    0 ≤ program.level number ↔ closings (program.take number) ≤ openings (program.take number) := by
  rw [level_eq]
  omega

theorem wellBracketed_iff : program.WellBracketed ↔
    (∀ count, closings (program.take count) ≤ openings (program.take count)) ∧
      program.closings = program.openings := by
  have total := level_eq program program.length
  rw [List.take_length] at total
  simp only [WellBracketed, level_nonneg_iff, total]
  apply and_congr_right'
  omega

/-- Behind the last line the level stays as it is. -/
theorem level_of_length_le (behind : program.length ≤ number) (later : number ≤ last) :
    program.level last = program.level number := by
  rw [level, level, List.take_of_length_le behind, List.take_of_length_le (Nat.le_trans behind later)]

/-- A level is counted on from an earlier one over the lines between them. -/
theorem level_add (first count : Nat) :
    program.level (first + count) = program.level first + levelFrom ((program.drop first).take count) 0 := by
  have appended : levelFrom (program.take first ++ (program.drop first).take count) 0 =
      levelFrom ((program.drop first).take count) (program.level first) := List.foldl_append
  rw [level, List.take_add, appended, levelFrom_eq, levelFrom_eq ((program.drop first).take count) 0]
  omega

/-- Lines are well bracketed exactly if the level, in the whole program, never falls below the level in front of
them and comes back to it. -/
theorem wellBracketed_extract_iff (ordered : first ≤ last) (inside : last ≤ program.length) :
    WellBracketed (program.extract first last) ↔
      (∀ number, first ≤ number → number ≤ last → program.level first ≤ program.level number) ∧
        program.level last = program.level first := by
  have part (count : Nat) (within : count ≤ last - first) :
      level (program.extract first last) count = program.level (first + count) - program.level first := by
    rw [level, List.extract_eq_take_drop, List.take_take, Nat.min_eq_left within, level_add]
    omega
  have size : (program.extract first last).length = last - first := length_extract inside
  have total := part (last - first) (Nat.le_refl _)
  rw [Nat.add_sub_cancel' ordered] at total
  rw [WellBracketed, size, total]
  constructor
  · rintro ⟨levels, closed⟩
    refine ⟨fun number after before => ?_, by omega⟩
    have here := part (number - first) (by omega)
    rw [Nat.add_sub_cancel' after] at here
    have level := levels (number - first)
    omega
  · rintro ⟨levels, closed⟩
    refine ⟨fun count => ?_, by omega⟩
    by_cases within : count ≤ last - first
    · have level := levels (first + count) (by omega) (by omega)
      rw [part count within]
      omega
    · rw [level_of_length_le (Nat.le_of_eq size) (Nat.le_of_not_le within), total]
      omega

/-- The level falls only on a closing line, and there by one. -/
theorem closes_of_level_lt (falls : program.level (number + 1) < program.level number) :
    (∃ terminated, program.hasKindAt number (.closing terminated) = true) ∧
      program.level (number + 1) = program.level number - 1 := by
  have inside : number < program.length := by
    by_contra outside
    rw [level_of_length_le (Nat.le_of_not_lt outside) (Nat.le_add_right number 1)] at falls
    exact Int.lt_irrefl _ falls
  have holds : program.hasKindAt number program[number].kind = true :=
    hasKindAt_iff.mpr ⟨program[number], List.getElem?_eq_getElem inside, rfl⟩
  have moved := level_succ holds
  obtain ⟨terminated, kind⟩ := LineKind.closing_of_weight_neg
    (show program[number].kind.weight < 0 by omega)
  rw [kind] at holds moved
  exact ⟨⟨terminated, holds⟩, moved⟩

/-- Behind a closing line the level is again what it is in front of the opening line that it matches. -/
theorem Matches.level_eq (paired : program.Matches opening closing) :
    program.level (closing + 1) = program.level opening := by
  obtain ⟨terminated, closes⟩ := paired.closes
  have raised : program.level (opening + 1) = program.level opening + 1 := level_succ paired.opens
  have lowered : program.level (closing + 1) = program.level closing - 1 := level_succ closes
  have between := paired.between
  rw [wellBracketed_extract_iff paired.ordered (Nat.le_of_lt (lt_length_of_hasKindAt closes))] at between
  rw [lowered, between.2, raised, Int.add_sub_cancel]

/-- An opening line has a match if the level comes back to what it is in front of the line: the closing line with
which it does so for the first time. -/
theorem exists_matches (opens : program.hasKindAt opening .opening = true)
    (returns : ∃ later, opening < later ∧ program.level later ≤ program.level opening) :
    ∃ closing, program.Matches opening closing := by
  have raised : program.level (opening + 1) = program.level opening + 1 := level_succ opens
  obtain ⟨behind, low⟩ := Nat.find_spec returns
  obtain ⟨closing, least⟩ : ∃ closing, Nat.find returns = closing + 1 :=
    Nat.exists_eq_succ_of_ne_zero (Nat.ne_zero_of_lt behind)
  rw [least] at behind low
  have high (number : Nat) (after : opening < number) (before : number ≤ closing) :
      program.level opening < program.level number := by
    have early := Nat.find_min returns (show number < Nat.find returns by omega)
    exact Int.not_le.mp fun level => early ⟨after, level⟩
  have ordered : opening < closing := by
    refine Nat.lt_of_le_of_ne (Nat.le_of_lt_succ behind) ?_
    rintro rfl
    omega
  have above := high closing ordered (Nat.le_refl _)
  obtain ⟨⟨terminated, closes⟩, lowered⟩ :=
    closes_of_level_lt (show program.level (closing + 1) < program.level closing by omega)
  refine ⟨closing, opens, ⟨terminated, closes⟩, ordered, ?_⟩
  rw [wellBracketed_extract_iff ordered (Nat.le_of_lt (lt_length_of_hasKindAt closes)), raised]
  refine ⟨fun number after before => ?_, by omega⟩
  have inner := high number after before
  omega

end

/-- The blocks that are open in front of a line, innermost first. The level has never been negative, it has stayed
above the level of each of their opening lines, and is one above that of the innermost. -/
inductive LeftOpen (program : Program) : Nat → List Nat → Prop where
  | none {number : Nat} (ahead : ∀ earlier ≤ number, 0 ≤ program.level earlier)
      (closed : program.level number = 0) : LeftOpen program number []
  | block {number opening : Nat} {outer : List Nat} (opens : program.hasKindAt opening .opening = true)
      (inside : ∀ later, opening < later → later ≤ number → program.level opening < program.level later)
      (level : program.level number = program.level opening + 1) (around : LeftOpen program opening outer) :
      LeftOpen program number (opening :: outer)

namespace LeftOpen

variable {program : Program} {number first last opening : Nat} {openBlocks outer : List Nat}

theorem level_nonneg (leftOpen : program.LeftOpen number openBlocks) :
    ∀ earlier ≤ number, 0 ≤ program.level earlier := by
  induction leftOpen with
  | none ahead closed => exact ahead
  | @block number opening outer opens inside level around inductionHypothesis =>
      intro earlier before
      by_cases inner : opening < earlier
      · have above := inside earlier inner before
        have start := inductionHypothesis opening (Nat.le_refl _)
        omega
      · exact inductionHypothesis earlier (Nat.le_of_not_lt inner)

/-- Lines over which the level does not fall below where it was, and comes back, leave the same blocks open. -/
theorem extend (leftOpen : program.LeftOpen first openBlocks)
    (levels : ∀ number, first ≤ number → number ≤ last → program.level first ≤ program.level number)
    (back : program.level last = program.level first) : program.LeftOpen last openBlocks := by
  cases leftOpen with
  | none ahead closed =>
      refine .none (fun earlier before => ?_) (by omega)
      by_cases later : first ≤ earlier
      · have level := levels earlier later before
        omega
      · exact ahead earlier (by omega)
  | block opens inside level around =>
      refine .block opens (fun later behind before => ?_) (by omega) around
      by_cases after : first ≤ later
      · have above := levels later after before
        omega
      · exact inside later behind (by omega)

theorem start (program : Program) : program.LeftOpen 0 [] := by
  refine .none (fun earlier before => ?_) rfl
  obtain rfl : earlier = 0 := by omega
  exact Int.le_refl _

theorem push (leftOpen : program.LeftOpen number openBlocks) (opens : program.hasKindAt number .opening = true) :
    program.LeftOpen (number + 1) (number :: openBlocks) := by
  have raised : program.level (number + 1) = program.level number + 1 := level_succ opens
  refine .block opens (fun later behind before => ?_) raised leftOpen
  obtain rfl : later = number + 1 := by omega
  omega

theorem pass {kind : LineKind} (leftOpen : program.LeftOpen number openBlocks)
    (holds : program.hasKindAt number kind = true) (plain : kind.weight = 0) :
    program.LeftOpen (number + 1) openBlocks := by
  have level := level_succ holds
  rw [plain] at level
  refine leftOpen.extend (fun later after before => ?_) (by omega)
  obtain rfl | rfl : later = number ∨ later = number + 1 := by omega
  all_goals omega

theorem pop {terminated : Bool} (leftOpen : program.LeftOpen number (opening :: outer))
    (closes : program.hasKindAt number (.closing terminated) = true) : program.LeftOpen (number + 1) outer := by
  have lowered : program.level (number + 1) = program.level number - 1 := level_succ closes
  cases leftOpen with
  | block opens inside level around =>
      -- The whole block, from its opening line on, is a detour for the blocks around it.
      refine around.extend (fun later after before => ?_) (by omega)
      by_cases reached : later = number + 1
      · subst reached
        omega
      · rcases Nat.eq_or_lt_of_le after with rfl | behind
        · exact Int.le_refl _
        · exact Int.le_of_lt (inside later behind (by omega))

/-- A closing line on which no block is open is the first that closes too much. -/
theorem firstExcess {terminated : Bool} (leftOpen : program.LeftOpen number [])
    (closes : program.hasKindAt number (.closing terminated) = true) : program.FirstExcess number := by
  refine ⟨⟨terminated, closes⟩, ?_, fun count before => level_nonneg_iff.mp (leftOpen.level_nonneg count before)⟩
  have lowered : program.level (number + 1) = program.level number - 1 := level_succ closes
  cases leftOpen with
  | none ahead closed =>
      rw [level_eq program (number + 1)] at lowered
      omega

/-- If blocks are open behind the last line, then the innermost of them is the last without a match. -/
theorem lastUnmatched (leftOpen : program.LeftOpen number (opening :: outer)) (behind : program.length ≤ number) :
    program.LastUnmatched opening := by
  cases leftOpen with
  | block opens inside level around =>
      refine ⟨opens, fun closing paired => ?_, fun other after opens' => ?_⟩
      · obtain ⟨terminated, closes⟩ := paired.closes
        have before := lt_length_of_hasKindAt closes
        have above := inside (closing + 1) (Nat.lt_succ_of_lt paired.ordered) (by omega)
        exact absurd paired.level_eq (Int.ne_of_gt above)
      · have before := lt_length_of_hasKindAt opens'
        have above := inside other after (by omega)
        exact exists_matches opens' ⟨number, by omega, by omega⟩

/-- While the check goes on to the last line, no part from the front closes more blocks than it opens. -/
theorem closings_le_openings (leftOpen : program.LeftOpen number openBlocks) (behind : program.length ≤ number)
    (count : Nat) : closings (program.take count) ≤ openings (program.take count) := by
  rw [← level_nonneg_iff]
  by_cases before : count ≤ number
  · exact leftOpen.level_nonneg count before
  · rw [level_of_length_le behind (Nat.le_of_not_le before)]
    exact leftOpen.level_nonneg number (Nat.le_refl _)

end LeftOpen

/-- The line that is to blame for blocks that do not pair up. -/
inductive Blames (program : Program) : Fault → Prop where
  | closing {number : Nat} (first : program.FirstExcess number) : Blames program (.onLine .unmatchedEnd number)
  | opening {number : Nat} (ahead : ∀ count, closings (program.take count) ≤ openings (program.take count))
      (last : program.LastUnmatched number) : Blames program (.onLine .unmatchedBegin number)

section
variable {program rest : Program} {line : Line} {number : Nat} {openBlocks : List Nat} {fault : Fault}

theorem getElem?_of_drop (cut : program.drop number = line :: rest) :
    program[number]? = some line ∧ program.drop (number + 1) = rest := by
  rw [← List.head?_drop, ← List.tail_drop, cut]
  exact ⟨rfl, rfl⟩

/-- The balance check keeps the blocks that are open on its stack, and so refuses lines for the right one of them. -/
theorem blames_of_balanceFrom (leftOpen : program.LeftOpen number openBlocks) (cut : program.drop number = rest)
    (refused : balanceFrom openBlocks number rest = .error fault) : program.Blames fault := by
  fun_induction balanceFrom openBlocks number rest with
  | case1 => cases refused
  | case2 opening outer number =>
      cases refused
      have behind : program.length ≤ number := List.drop_eq_nil_iff.mp cut
      exact .opening (leftOpen.closings_le_openings behind) (leftOpen.lastUnmatched behind)
  | case3 openBlocks number line rest kind inductionHypothesis =>
      obtain ⟨present, onward⟩ := getElem?_of_drop cut
      exact inductionHypothesis (leftOpen.push (hasKindAt_iff.mpr ⟨line, present, kind⟩)) onward refused
  | case4 number line rest terminated kind =>
      cases refused
      obtain ⟨present, _⟩ := getElem?_of_drop cut
      exact .closing (leftOpen.firstExcess (hasKindAt_iff.mpr ⟨line, present, kind⟩))
  | case5 number line rest terminated kind opening outer inductionHypothesis =>
      obtain ⟨present, onward⟩ := getElem?_of_drop cut
      exact inductionHypothesis (leftOpen.pop (hasKindAt_iff.mpr ⟨line, present, kind⟩)) onward refused
  | case6 openBlocks number line rest unopened unclosed inductionHypothesis =>
      obtain ⟨present, onward⟩ := getElem?_of_drop cut
      have plain := LineKind.weight_eq_zero unopened unclosed
      exact inductionHypothesis (leftOpen.pass (hasKindAt_iff.mpr ⟨line, present, rfl⟩) plain) onward refused

theorem blames_of_checkBalance (refused : program.checkBalance = .error fault) : program.Blames fault :=
  blames_of_balanceFrom (LeftOpen.start program) rfl refused

theorem bracketLines_cons (line : Line) (rest : Program) :
    bracketLines (line :: rest) = if line.kind.isBracket then line :: bracketLines rest else bracketLines rest :=
  List.filter_cons

theorem bracketsBefore_succ (present : program[number]? = some line) :
    program.bracketsBefore (number + 1) =
      program.bracketsBefore number + if line.kind.isBracket then 1 else 0 := by
  have front : program.take (number + 1) = program.take number ++ [line] := by
    rw [List.take_add_one, present, Option.toList_some]
  rw [bracketsBefore, bracketsBefore, bracketLines, bracketLines, front, List.filter_append, List.length_append]
  cases bracket : line.kind.isBracket <;> simp [bracket]

/-- The balance check finds the same among the bracket lines alone, under the numbers that they have there. -/
theorem balanceFrom_bracketLines (cut : program.drop number = rest) :
    balanceFrom (openBlocks.map program.bracketsBefore) (program.bracketsBefore number) (bracketLines rest) =
      (balanceFrom openBlocks number rest).mapError (.relocate program.bracketsBefore) := by
  fun_induction balanceFrom openBlocks number rest with
  | case1 => rfl
  | case2 opening outer number =>
      rw [Except.mapError, Fault.relocate_onLine]
      rfl
  | case3 openBlocks number line rest kind inductionHypothesis =>
      obtain ⟨present, onward⟩ := getElem?_of_drop cut
      have bracket := LineKind.isBracket_iff.mpr (Or.inl kind)
      rw [bracketLines_cons, if_pos bracket, balanceFrom_opening kind, ← inductionHypothesis onward,
        bracketsBefore_succ present, if_pos bracket, List.map_cons]
  | case4 number line rest terminated kind =>
      have bracket := LineKind.isBracket_iff.mpr (Or.inr ⟨terminated, kind⟩)
      rw [bracketLines_cons, if_pos bracket, Except.mapError, Fault.relocate_onLine, List.map_nil]
      simp only [balanceFrom, kind]
  | case5 number line rest terminated kind opening outer inductionHypothesis =>
      obtain ⟨present, onward⟩ := getElem?_of_drop cut
      have bracket := LineKind.isBracket_iff.mpr (Or.inr ⟨terminated, kind⟩)
      rw [bracketLines_cons, if_pos bracket, List.map_cons, balanceFrom_closing kind, ← inductionHypothesis onward,
        bracketsBefore_succ present, if_pos bracket]
  | case6 openBlocks number line rest unopened unclosed inductionHypothesis =>
      obtain ⟨present, onward⟩ := getElem?_of_drop cut
      have other : ¬ line.kind.isBracket = true := by
        rw [LineKind.isBracket_iff]
        rintro (opens | ⟨terminated, closes⟩)
        · exact unopened opens
        · exact unclosed terminated closes
      rw [bracketLines_cons, if_neg other, ← inductionHypothesis onward, bracketsBefore_succ present, if_neg other,
        Nat.add_zero]

end

/-- The balance check accepts exactly the programs whose blocks pair up, and blames the right line of any other. It
passes exactly if no part of the lines from the front closes more blocks than it opens and the whole closes as many
as it opens. If some part closes more, the closing line with which this first happens is to blame. If none does and
blocks are left open, then the last opening line without a match is, which need not be the last opening line. And the
check comes out in the same way for the opening and closing lines alone, but for the numbers that they have there. -/
theorem balance_check_blames_unmatched_line (program : Program) :
    (program.checkBalance = .ok () ↔
      (∀ count, closings (program.take count) ≤ openings (program.take count)) ∧
        program.closings = program.openings) ∧
    ((∃ count, openings (program.take count) < closings (program.take count)) →
      ∃ number, program.FirstExcess number ∧ program.checkBalance = .error (.onLine .unmatchedEnd number)) ∧
    ((∀ count, closings (program.take count) ≤ openings (program.take count)) →
      program.closings < program.openings →
      ∃ number, program.LastUnmatched number ∧ program.checkBalance = .error (.onLine .unmatchedBegin number)) ∧
    program.bracketLines.checkBalance = program.checkBalance.mapError (.relocate program.bracketsBefore) := by
  have passes : program.checkBalance = .ok () ↔
      (∀ count, closings (program.take count) ≤ openings (program.take count)) ∧
        program.closings = program.openings := by
    rw [checkBalance_eq_ok_iff, wellBracketed_iff]
  refine ⟨passes, ?_, ?_, @balanceFrom_bracketLines program program 0 [] List.drop_zero⟩
  · rintro ⟨count, excess⟩
    cases checked : program.checkBalance with
    | ok value => exact absurd ((passes.mp checked).1 count) (Nat.not_le.mpr excess)
    | error fault =>
        cases blames_of_checkBalance checked with
        | closing first => exact ⟨_, first, rfl⟩
        | opening ahead last => exact absurd (ahead count) (Nat.not_le.mpr excess)
  · intro ahead left
    cases checked : program.checkBalance with
    | ok value => exact absurd (passes.mp checked).2 (Nat.ne_of_lt left)
    | error fault =>
        cases blames_of_checkBalance checked with
        | closing first => exact absurd (ahead _) (Nat.not_le.mpr first.excess)
        | opening _ last => exact ⟨_, last, rfl⟩

/-- Lines whose last opening line has a match, and an earlier one has none. -/
def dangling : Program :=
  classify ["\tBEGIN", "\t\tWHILE front-is-clear DO", "\t\tBEGIN", "\t\t\tmove", "\t\tEND;", "\t\tmove"]

/-- Lines that close a block too many before they open another. -/
def eager : Program :=
  classify ["\tBEGIN", "\t\tmove", "\tEND;", "\tmove", "\tEND;", "\tBEGIN"]

theorem balance_check_blames_unmatched_line_dangling :
    ((∀ count, closings (dangling.take count) ≤ openings (dangling.take count)) ∧
      dangling.closings < dangling.openings ∧ dangling.hasKindAt 2 .opening = true ∧ dangling.LastUnmatched 0 ∧
      dangling.checkBalance = .error (.onLine .unmatchedBegin 0)) ∧
    openings (eager.take 5) < closings (eager.take 5) ∧ eager.FirstExcess 4 ∧
      eager.checkBalance = .error (.onLine .unmatchedEnd 4) := by
  have ahead (count : Nat) : closings (dangling.take count) ≤ openings (dangling.take count) := by
    have within : ∀ count ≤ 6, closings (dangling.take count) ≤ openings (dangling.take count) := by decide +kernel
    by_cases short : count ≤ 6
    · exact within count short
    · have whole : dangling.take count = dangling.take 6 := by
        rw [List.take_of_length_le (Nat.le_of_not_le short)]
        rfl
      rw [whole]
      exact within 6 (Nat.le_refl _)
  have left : dangling.closings < dangling.openings := by decide +kernel
  have excess : openings (eager.take 5) < closings (eager.take 5) := by decide +kernel
  have onOpening : dangling.checkBalance = .error (.onLine .unmatchedBegin 0) := by decide +kernel
  have onClosing : eager.checkBalance = .error (.onLine .unmatchedEnd 4) := by decide +kernel
  obtain ⟨_, last, blamed⟩ := (balance_check_blames_unmatched_line dangling).2.2.1 ahead left
  obtain ⟨_, first, blamed'⟩ := (balance_check_blames_unmatched_line eager).2.1 ⟨5, excess⟩
  cases onOpening.symm.trans blamed
  cases onClosing.symm.trans blamed'
  exact ⟨⟨ahead, left, by decide +kernel, last, onOpening⟩, excess, first, onClosing⟩

end Program

end GridRobot
