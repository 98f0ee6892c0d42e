import GridRobot.Proofs.Advancing

namespace GridRobot

namespace Program

/-- The opening lines whose blocks the balance check has open behind lines, innermost first. -/
def stackFrom : List Nat → Nat → Program → Except Fault (List Nat)
  | openBlocks, _, [] => .ok openBlocks
  | openBlocks, number, line :: rest =>
    match line.kind with
    | .opening => stackFrom (number :: openBlocks) (number + 1) rest
    | .closing _ =>
      match openBlocks with
      | [] => .error (.onLine .unmatchedEnd number)
      | _ :: outer => stackFrom outer (number + 1) rest
    | _ => stackFrom openBlocks (number + 1) rest

/-- The opening and closing lines are a balanced word of brackets: no part from the front closes more blocks than
it opens, and all blocks are closed in the end. -/
def WellBracketed (lines : Program) : Prop :=
  (∀ number, 0 ≤ lines.level number) ∧ lines.level lines.length = 0

/-- The balance check pairs an opening line with a closing line. From wherever it starts and whatever blocks are open
there, if it comes to the opening line, it comes to the closing line with just that line more on its stack, and so
takes it off. -/
structure Paired (program : Program) (opening closing : Nat) : Prop where
  opens : program.hasKindAt opening .opening = true
  closes : ∃ terminated, program.hasKindAt closing (.closing terminated) = true
  ordered : opening < closing
  stack : ∀ first openBlocks stack, first ≤ opening →
    stackFrom openBlocks first (program.extract first opening) = .ok stack →
    stackFrom openBlocks first (program.extract first closing) = .ok (opening :: stack)

section
variable {lines first second rest : Program} {openBlocks inner stack outer : List Nat} {number opened : Nat}
  {line : Line} {terminated : Bool}

theorem stackFrom_opening (kind : line.kind = .opening) :
    stackFrom openBlocks number (line :: rest) = stackFrom (number :: openBlocks) (number + 1) rest := by
  simp only [stackFrom, kind]

theorem stackFrom_closing (kind : line.kind = .closing terminated) :
    stackFrom (opened :: openBlocks) number (line :: rest) = stackFrom openBlocks (number + 1) rest := by
  simp only [stackFrom, kind]

theorem stackFrom_unmatched (kind : line.kind = .closing terminated) :
    stackFrom [] number (line :: rest) = .error (.onLine .unmatchedEnd number) := by
  simp only [stackFrom, kind]

theorem stackFrom_plain (plain : line.kind.weight = 0) :
    stackFrom openBlocks number (line :: rest) = stackFrom openBlocks (number + 1) rest := by
  obtain ⟨text, kind⟩ := line
  cases kind <;> simp_all [stackFrom, LineKind.weight]

/-- The balance check is a look at its stack behind the last line. -/
theorem balanceFrom_eq_stackFrom (openBlocks : List Nat) (number : Nat) (lines : Program) :
    balanceFrom openBlocks number lines =
      match stackFrom openBlocks number lines with
      | .error fault => .error fault
      | .ok [] => .ok ()
      | .ok (opened :: _) => .error (.onLine .unmatchedBegin opened) := by
  fun_induction balanceFrom openBlocks number lines with
  | case1 => rfl
  | case2 => rfl
  | case3 openBlocks number line rest kind inductionHypothesis => rw [stackFrom_opening kind, inductionHypothesis]
  | case4 number line rest terminated kind => rw [stackFrom_unmatched kind]
  | case5 number line rest terminated kind opened outer inductionHypothesis =>
      rw [stackFrom_closing kind, inductionHypothesis]
  | case6 openBlocks number line rest unopened unclosed inductionHypothesis =>
      rw [stackFrom_plain (LineKind.weight_eq_zero unopened unclosed), inductionHypothesis]

/-- The check goes on behind lines with the stack that they leave. -/
theorem stackFrom_append (reached : stackFrom openBlocks number first = .ok stack) :
    stackFrom openBlocks number (first ++ second) = stackFrom stack (number + first.length) second := by
  have onward (number : Nat) (rest : Program) : number + 1 + rest.length = number + (rest.length + 1) := by omega
  fun_induction stackFrom openBlocks number first with
  | case1 =>
      cases reached
      rfl
  | case2 openBlocks number line rest kind inductionHypothesis =>
      rw [List.cons_append, stackFrom_opening kind, inductionHypothesis reached, List.length_cons, onward]
  | case3 => cases reached
  | case4 number line rest terminated kind opened outer inductionHypothesis =>
      rw [List.cons_append, stackFrom_closing kind, inductionHypothesis reached, List.length_cons, onward]
  | case5 openBlocks number line rest unopened unclosed inductionHypothesis =>
      rw [List.cons_append, stackFrom_plain (LineKind.weight_eq_zero unopened unclosed),
        inductionHypothesis reached, List.length_cons, onward]

/-- Blocks that were open before lines that do not close them stay open below. -/
theorem stackFrom_below (reached : stackFrom inner number lines = .ok stack) :
    stackFrom (inner ++ outer) number lines = .ok (stack ++ outer) := by
  fun_induction stackFrom inner number lines with
  | case1 =>
      cases reached
      rfl
  | case2 inner number line rest kind inductionHypothesis =>
      rw [stackFrom_opening kind]
      exact inductionHypothesis reached
  | case3 => cases reached
  | case4 number line rest terminated kind opened below inductionHypothesis =>
      rw [List.cons_append, stackFrom_closing kind]
      exact inductionHypothesis reached
  | case5 inner number line rest unopened unclosed inductionHypothesis =>
      rw [stackFrom_plain (LineKind.weight_eq_zero unopened unclosed)]
      exact inductionHypothesis reached

/-- What is on the stack was there before, or is one of the lines. -/
theorem mem_of_stackFrom (reached : stackFrom openBlocks number lines = .ok stack) (member : opened ∈ stack) :
    opened ∈ openBlocks ∨ number ≤ opened := by
  fun_induction stackFrom openBlocks number lines with
  | case1 =>
      cases reached
      exact Or.inl member
  | case2 openBlocks number line rest kind inductionHypothesis =>
      rcases inductionHypothesis reached with pushed | later
      · rcases List.mem_cons.mp pushed with rfl | before
        · exact Or.inr (Nat.le_refl _)
        · exact Or.inl before
      · exact Or.inr (by omega)
  | case3 => cases reached
  | case4 number line rest terminated kind top outer inductionHypothesis =>
      rcases inductionHypothesis reached with before | later
      · exact Or.inl (List.mem_cons_of_mem _ before)
      · exact Or.inr (by omega)
  | case5 openBlocks number line rest unopened unclosed inductionHypothesis =>
      rcases inductionHypothesis reached with before | later
      · exact Or.inl before
      · exact Or.inr (by omega)

/-- Lines that open and close blocks in pairs leave the stack as it was. -/
theorem Neutral.stackFrom_eq (neutral : Neutral lines) : stackFrom openBlocks number lines = .ok openBlocks := by
  have balanced : balanceFrom [] number lines = .ok () := by
    have checked := neutral [] number []
    rw [List.append_nil] at checked
    rw [checked, balanceFrom]
  rw [balanceFrom_eq_stackFrom] at balanced
  split at balanced
  · cases balanced
  · rename_i emptied
    exact stackFrom_below emptied
  · cases balanced

/-- Lines close blocks well if they do so behind their first line. -/
theorem levelFrom_cons {before : Int} :
    (∀ count, 0 ≤ levelFrom ((line :: rest).take count) before) ∧ levelFrom (line :: rest) before = 0 ↔
      0 ≤ before ∧ (∀ count, 0 ≤ levelFrom (rest.take count) (before + line.kind.weight)) ∧
        levelFrom rest (before + line.kind.weight) = 0 := by
  constructor
  · rintro ⟨levels, closed⟩
    exact ⟨levels 0, fun count => levels (count + 1), closed⟩
  · rintro ⟨start, levels, closed⟩
    refine ⟨fun count => ?_, closed⟩
    cases count with
    | zero => exact start
    | succ count => exact levels count

/-- The balance check passes exactly if no closing line comes too early and no block is left open. -/
theorem balanceFrom_eq_ok_iff (openBlocks : List Nat) (number : Nat) (lines : Program) :
    balanceFrom openBlocks number lines = .ok () ↔
      (∀ count, 0 ≤ levelFrom (lines.take count) openBlocks.length) ∧ lines.levelFrom openBlocks.length = 0 := by
  fun_induction balanceFrom openBlocks number lines with
  | case1 => simp [levelFrom]
  | case2 opened outer number =>
      simp only [reduceCtorEq, levelFrom, List.foldl_nil, List.length_cons, false_iff, not_and]
      omega
  | case3 openBlocks number line rest kind inductionHypothesis =>
      have raised : (openBlocks.length : Int) + line.kind.weight = (number :: openBlocks).length := by
        rw [kind]
        rfl
      rw [levelFrom_cons, raised, inductionHypothesis, and_iff_right (Int.natCast_nonneg _)]
  | case4 number line rest terminated kind =>
      simp only [reduceCtorEq, false_iff, levelFrom_cons, kind]
      rintro ⟨_, levels, _⟩
      exact absurd (levels 0) (by simp [levelFrom, LineKind.weight])
  | case5 number line rest terminated kind opened outer inductionHypothesis =>
      have lowered : ((opened :: outer).length : Int) + line.kind.weight = outer.length := by
        simp only [kind, List.length_cons, LineKind.weight]
        omega
      rw [levelFrom_cons, lowered, inductionHypothesis, and_iff_right (Int.natCast_nonneg _)]
  | case6 openBlocks number line rest unopened unclosed inductionHypothesis =>
      rw [levelFrom_cons, LineKind.weight_eq_zero unopened unclosed, Int.add_zero, inductionHypothesis,
        and_iff_right (Int.natCast_nonneg _)]

theorem checkBalance_eq_ok_iff (lines : Program) : lines.checkBalance = .ok () ↔ lines.WellBracketed := by
  rw [checkBalance, balanceFrom_eq_ok_iff, WellBracketed, level, List.take_length]
  rfl

theorem Neutral.wellBracketed (neutral : Neutral lines) : lines.WellBracketed := by
  have checked := neutral [] 0 []
  rw [List.append_nil] at checked
  rw [← checkBalance_eq_ok_iff, checkBalance, checked, balanceFrom]

end

section
variable {program : Program} {opening closing other : Nat}

theorem length_extract {first last : Nat} (inside : last ≤ program.length) :
    (program.extract first last).length = last - first := by
  rw [List.extract_eq_take_drop, List.length_take, List.length_drop]
  omega

/-- Lines that open and close blocks in pairs stand between an opening and a closing line that are a pair. -/
theorem paired_of_neutral {terminated : Bool} (opens : program.hasKindAt opening .opening = true)
    (closes : program.hasKindAt closing (.closing terminated) = true) (ordered : opening < closing)
    (neutral : Neutral (program.extract (opening + 1) closing)) : program.Paired opening closing := by
  refine ⟨opens, ⟨terminated, closes⟩, ordered, ?_⟩
  intro first openBlocks stack before reached
  obtain ⟨line, present, kind⟩ := hasKindAt_iff.mp opens
  have inside : opening < program.length := (List.getElem?_eq_some_iff.mp present).1
  rw [← extract_append before (Nat.le_of_lt ordered), stackFrom_append reached,
    length_extract (Nat.le_of_lt inside), Nat.add_sub_cancel' before, extract_eq_cons present ordered,
    stackFrom_opening kind, neutral.stackFrom_eq]

namespace Paired

theorem lt_length (paired : program.Paired opening closing) : closing < program.length := by
  obtain ⟨terminated, closes⟩ := paired.closes
  exact lt_length_of_hasKindAt closes

/-- A check that starts on the opening line has only this line on its stack when it comes to the closing line. -/
theorem stackFrom_eq (paired : program.Paired opening closing) :
    stackFrom [] opening (program.extract opening closing) = .ok [opening] := by
  apply paired.stack opening [] [] (Nat.le_refl _)
  exact (Neutral.extract_self program opening).stackFrom_eq

/-- An opening line is paired only once: it is off the stack behind its first closing line, and stays off. -/
theorem le (paired : program.Paired opening closing) (paired' : program.Paired opening other) : closing ≤ other := by
  refine Nat.le_of_not_lt fun early => ?_
  obtain ⟨terminated, closes⟩ := paired'.closes
  obtain ⟨line, present, kind⟩ := hasKindAt_iff.mp closes
  have ordered := paired'.ordered
  have onward : stackFrom [opening] other (program.extract other closing) = .ok [opening] := by
    have whole := paired.stackFrom_eq
    rw [← extract_append (Nat.le_of_lt ordered) (Nat.le_of_lt early), stackFrom_append paired'.stackFrom_eq,
      length_extract (Nat.le_of_lt paired'.lt_length), Nat.add_sub_cancel' (Nat.le_of_lt ordered)] at whole
    exact whole
  rw [extract_eq_cons present early, stackFrom_closing kind] at onward
  rcases mem_of_stackFrom onward (List.mem_singleton_self opening) with before | later
  · cases before
  · omega

theorem unique (paired : program.Paired opening closing) (paired' : program.Paired opening other) :
    other = closing :=
  Nat.le_antisymm (paired'.le paired) (paired.le paired')

end Paired

/-- The block of a control header is closed by this line: header, opening and closing line have the same number of
tabs, and the stack of the balance check pairs the closing line, and no other, with the opening line. -/
structure Bracketed (program : Program) (header close : Nat) : Prop where
  aligned : ∃ depth kind terminated, kind.header? ≠ none ∧ kind.header? ≠ some .define ∧
    program.Holds header depth kind ∧ program.Holds (header + 1) depth .opening ∧
    program.Holds close depth (.closing terminated)
  paired : program.Paired (header + 1) close
  only : ∀ other, program.Paired (header + 1) other → other = close

/-- A walk over the block, live or not, returns this line. -/
def EndsOn (program : Program) (registry : Registry) (block : Block) (last : Nat) : Prop :=
  (∃ left, block.skip left = .ok last) ∨
    ∃ fuel left progress reached, program.execute registry fuel left block progress = .finished last reached

end

end Program

namespace Block

/-- The blocks in a block and behind its first step. -/
def parts : Block → List Block
  | .done _ => []
  | .broken _ => []
  | .statement _ _ rest => [rest]
  | .branch _ _ body alternative rest => [body, alternative, rest]
  | .loop _ _ body rest => [body, rest]
  | .iterate _ _ body rest => [body, rest]

/-- The first step of the block has this body under the header on that line. A branch has the header of an alternative
behind its closing line, unless its alternative is empty and ends there. -/
inductive Opens : Block → Nat → Block → Prop where
  | branch {number : Nat} {condition : String} {body alternative rest : Block} :
      Opens (.branch number condition body alternative rest) number body
  | otherwise {number close : Nat} {condition : String} {body alternative rest : Block}
      (ended : body.ending = .ok close) (present : alternative ≠ .done (close + 1)) :
      Opens (.branch number condition body alternative rest) (close + 1) alternative
  | loop {number : Nat} {condition : String} {body rest : Block} :
      Opens (.loop number condition body rest) number body
  | iterate {number count : Nat} {body rest : Block} : Opens (.iterate number count body rest) number body

/-- Somewhere in the block, a step has this body under the header on that line. -/
inductive Heads : Block → Nat → Block → Prop where
  | here {block body : Block} {header : Nat} (opens : block.Opens header body) : Heads block header body
  | inside {block part body : Block} {header : Nat} (member : part ∈ block.parts)
      (heads : Heads part header body) : Heads block header body

theorem not_heads_done {number header : Nat} {body : Block} : ¬ (done number).Heads header body := by
  intro heads
  cases heads with
  | here opens => cases opens
  | inside member heads => cases member

end Block

namespace Program

section
variable {program : Program} {registry : Registry} {number stop depth header close last : Nat} {block body : Block}

/-- A walk that returns a line, live or not, finds the block sound. -/
theorem EndsOn.sound (ends : program.EndsOn registry block last) : block.Sound ∧ block.ending = .ok last := by
  have skipped : ∃ left, block.skip left = .ok last := by
    rcases ends with skipped | ⟨fuel, left, progress, reached, finished⟩
    · exact skipped
    · have runs := runs_execute program registry fuel left block progress
      rw [finished] at runs
      exact ⟨left, runs.skip_eq⟩
  obtain ⟨left, skipped⟩ := skipped
  obtain ⟨sound, _, ended⟩ := Block.skip_eq_ok_iff.mp skipped
  exact ⟨sound, ended⟩

/-- The lines of a sound block open and close blocks in pairs, and its range or the block ends behind them. -/
theorem neutral_of_sound (positive : 1 ≤ depth) (ordered : number ≤ stop)
    (sound : (program.block number stop depth).Sound)
    (ended : (program.block number stop depth).ending = .ok last) :
    Neutral (program.extract number last) ∧
      (last = stop ∨ ∃ terminated, program.Holds last (depth - 1) (.closing terminated)) := by
  have skipped := Block.skip_eq_ok_iff.mpr ⟨sound, Nat.le_refl _, ended⟩
  obtain ⟨derives, finished⟩ := derives_of_skip positive ordered skipped
  exact ⟨derives.neutral, finished⟩

/-- The line that ends a sound body at the depth of its header is the one that the stack pairs with the opening line
of the body. -/
theorem Encloses.bracketed {kind : LineKind} (encloses : program.Encloses number stop depth close)
    (holds : program.Holds number depth kind) (control : kind.header? ≠ none) (other : kind.header? ≠ some .define)
    (sound : (program.block (number + 2) stop (depth + 1 : Nat)).Sound) : program.Bracketed number close := by
  have bounds := encloses.bounds
  obtain ⟨neutral, finished⟩ := neutral_of_sound (by omega) (by omega) sound encloses.ended
  obtain ⟨terminated, closing⟩ := finished.resolve_left (by omega)
  have paired : program.Paired (number + 1) close :=
    paired_of_neutral (hasKindAt_of_holds encloses.opening) (hasKindAt_of_holds closing) (by omega) neutral
  exact ⟨⟨depth, kind, terminated, control, other, holds, encloses.opening, closing⟩, paired,
    fun _ paired' => paired.unique paired'⟩

/-- The bodies of the first step of a sound block are closed by the lines that the stack pairs with their opening
lines. -/
theorem bracketed_of_opens (positive : 1 ≤ depth) (inRange : number < stop)
    (sound : (program.block number stop depth).Sound)
    (opens : (program.block number stop depth).Opens header body) :
    ∃ close, body.ending = .ok close ∧ program.Bracketed header close := by
  cases Starts.of_sound positive inRange sound with
  | closing terminated holds =>
      rw [block_eq_done positive inRange holds] at opens
      cases opens
  | statement name terminated holds punctuated =>
      rw [block_statement inRange holds punctuated] at opens
      cases opens
  | branch condition close holds encloses alone =>
      have within := within_of_sound holds encloses sound
      rw [block_branch holds encloses within alone] at sound opens
      cases opens with
      | branch => exact ⟨close, encloses.ended, encloses.bracketed holds nofun nofun sound.1⟩
      | otherwise ended present =>
          rw [encloses.ended] at ended
          cases ended
          exact absurd rfl present
  | choice condition close afterwards holds encloses otherwise encloses' =>
      rw [block_choice holds encloses otherwise encloses'] at sound opens
      cases opens with
      | branch => exact ⟨close, encloses.ended, encloses.bracketed holds nofun nofun sound.1⟩
      | otherwise ended present =>
          rw [encloses.ended] at ended
          cases ended
          exact ⟨afterwards, encloses'.ended, encloses'.bracketed otherwise nofun nofun sound.2.1⟩
  | loop condition close holds encloses =>
      rw [block_loop holds encloses] at sound opens
      cases opens with
      | loop => exact ⟨close, encloses.ended, encloses.bracketed holds nofun nofun sound.1⟩
  | iterate digits close holds short encloses =>
      rw [block_iterate holds short encloses] at sound opens
      cases opens with
      | iterate => exact ⟨close, encloses.ended, encloses.bracketed holds nofun nofun sound.1⟩

/-- The parts of a sound block are empty, or they are sound blocks of the same range. -/
theorem part_of_sound {part : Block} (positive : 1 ≤ depth) (inRange : number < stop)
    (sound : (program.block number stop depth).Sound) (member : part ∈ (program.block number stop depth).parts) :
    (∃ place, part = .done place) ∨
      ∃ first inner : Nat, 1 ≤ inner ∧ part = program.block first stop inner ∧ part.Sound := by
  cases Starts.of_sound positive inRange sound with
  | closing terminated holds =>
      rw [block_eq_done positive inRange holds] at member
      cases member
  | statement name terminated holds punctuated =>
      rw [block_statement inRange holds punctuated] at sound member
      rw [Block.parts, List.mem_singleton] at member
      exact Or.inr ⟨number + 1, depth, positive, member, member ▸ sound⟩
  | branch condition close holds encloses alone =>
      have within := within_of_sound holds encloses sound
      rw [block_branch holds encloses within alone] at sound member
      simp only [Block.parts, List.mem_cons, List.not_mem_nil, or_false] at member
      rcases member with rfl | rfl | rfl
      · exact Or.inr ⟨number + 2, depth + 1, Nat.le_add_left _ _, rfl, sound.1⟩
      · exact Or.inl ⟨_, rfl⟩
      · exact Or.inr ⟨close + 1, depth, positive, rfl, sound.2.2⟩
  | choice condition close afterwards holds encloses otherwise encloses' =>
      rw [block_choice holds encloses otherwise encloses'] at sound member
      simp only [Block.parts, List.mem_cons, List.not_mem_nil, or_false] at member
      rcases member with rfl | rfl | rfl
      · exact Or.inr ⟨number + 2, depth + 1, Nat.le_add_left _ _, rfl, sound.1⟩
      · exact Or.inr ⟨close + 3, depth + 1, Nat.le_add_left _ _, rfl, sound.2.1⟩
      · exact Or.inr ⟨afterwards + 1, depth, positive, rfl, sound.2.2⟩
  | loop condition close holds encloses =>
      rw [block_loop holds encloses] at sound member
      simp only [Block.parts, List.mem_cons, List.not_mem_nil, or_false] at member
      rcases member with rfl | rfl
      · exact Or.inr ⟨number + 2, depth + 1, Nat.le_add_left _ _, rfl, sound.1⟩
      · exact Or.inr ⟨close + 1, depth, positive, rfl, sound.2⟩
  | iterate digits close holds short encloses =>
      rw [block_iterate holds short encloses] at sound member
      simp only [Block.parts, List.mem_cons, List.not_mem_nil, or_false] at member
      rcases member with rfl | rfl
      · exact Or.inr ⟨number + 2, depth + 1, Nat.le_add_left _ _, rfl, sound.1⟩
      · exact Or.inr ⟨close + 1, depth, positive, rfl, sound.2⟩

/-- Every header in a sound block has its body closed by the line that the stack pairs with its opening line. -/
theorem bracketed_of_heads (positive : 1 ≤ depth) (sound : (program.block number stop depth).Sound)
    (heads : (program.block number stop depth).Heads header body) :
    ∃ close, body.ending = .ok close ∧ program.Bracketed header close := by
  generalize same : program.block number stop depth = block at heads
  induction heads generalizing number depth with
  | @here block body header opens =>
      subst same
      by_cases inRange : number < stop
      · exact bracketed_of_opens positive inRange sound opens
      · rw [block_of_le (by omega)] at opens
        cases opens
  | @inside block part body header member heads inductionHypothesis =>
      subst same
      by_cases inRange : number < stop
      · rcases part_of_sound positive inRange sound member with ⟨place, rfl⟩ | ⟨first, inner, deep, rfl, inside⟩
        · exact absurd heads Block.not_heads_done
        · exact inductionHypothesis deep inside rfl
      · rw [block_of_le (by omega)] at member
        cases member

/-- The line is a header of a block inside instructions. -/
def IsControlAt (program : Program) (number : Nat) : Prop :=
  ∃ kind, program.hasKindAt number kind = true ∧ kind.header? ≠ none ∧ kind.header? ≠ some .define

theorem Holds.not_isControlAt {kind : LineKind} (holds : program.Holds number depth kind)
    (plain : kind.header? = none) : ¬ program.IsControlAt number := by
  rintro ⟨kind', control, headed, _⟩
  obtain ⟨line, present, rfl, _⟩ := holds
  obtain ⟨line', present', rfl⟩ := hasKindAt_iff.mp control
  rw [present] at present'
  cases present'
  exact headed plain

/-- A control header from the header of a body to the line that closes it is that header, or stands in the body. -/
theorem Encloses.isControlAt (encloses : program.Encloses number stop depth close)
    (sound : (program.block (number + 2) stop (depth + 1 : Nat)).Sound) (control : program.IsControlAt header)
    (behind : number ≤ header) (before : header ≤ close) :
    header = number ∨ (number + 2 ≤ header ∧ header < close) := by
  have bounds := encloses.bounds
  obtain ⟨_, finished⟩ := neutral_of_sound (by omega) (by omega) sound encloses.ended
  obtain ⟨terminated, closing⟩ := finished.resolve_left (by omega)
  have unopened : header ≠ number + 1 := by
    rintro rfl
    exact encloses.opening.not_isControlAt rfl control
  have unclosed : header ≠ close := by
    rintro rfl
    exact closing.not_isControlAt rfl control
  omega

/-- No control header of the lines of a sound block is missed. -/
theorem heads_of_isControlAt (positive : 1 ≤ depth) (sound : (program.block number stop depth).Sound)
    (ended : (program.block number stop depth).ending = .ok last) (control : program.IsControlAt header)
    (behind : number ≤ header) (before : header < last) :
    ∃ body, (program.block number stop depth).Heads header body := by
  have reach {block part : Block} (member : part ∈ block.parts) (found : ∃ body, part.Heads header body) :
      ∃ body, block.Heads header body := by
    obtain ⟨body, heads⟩ := found
    exact ⟨body, .inside member heads⟩
  -- The induction is on the lines that are left in the range: bodies and what follows them start further behind.
  induction distance : stop - number using Nat.strongRecOn generalizing number depth last with
  | ind size inductionHypothesis =>
      by_cases inRange : number < stop
      · have later {first depth last : Nat} (onward : number < first) (positive : 1 ≤ depth)
            (sound : (program.block first stop depth).Sound)
            (ended : (program.block first stop depth).ending = .ok last) (behind : first ≤ header)
            (before : header < last) : ∃ body, (program.block first stop depth).Heads header body :=
          inductionHypothesis (stop - first) (by omega) positive sound ended behind before rfl
        have enclosed {line close : Nat} {block : Block} (onward : number ≤ line)
            (encloses : program.Encloses line stop depth close)
            (sound : (program.block (line + 2) stop (depth + 1 : Nat)).Sound)
            (opens : block.Opens line (program.block (line + 2) stop (depth + 1 : Nat)))
            (member : program.block (line + 2) stop (depth + 1 : Nat) ∈ block.parts) (behind : line ≤ header)
            (before : header ≤ close) : ∃ body, block.Heads header body := by
          rcases encloses.isControlAt sound control behind before with rfl | ⟨first, second⟩
          · exact ⟨_, .here opens⟩
          · exact reach member (later (by omega) (by omega) sound encloses.ended first second)
        cases Starts.of_sound positive inRange sound with
        | closing terminated holds =>
            rw [block_eq_done positive inRange holds] at ended
            cases ended
            omega
        | statement name terminated holds punctuated =>
            rw [block_statement inRange holds punctuated] at sound ended ⊢
            have other : header ≠ number := by
              rintro rfl
              exact holds.not_isControlAt rfl control
            exact reach List.mem_cons_self (later (by omega) positive sound ended (by omega) before)
        | branch condition close holds encloses alone =>
            have bounds := encloses.bounds
            have within := within_of_sound holds encloses sound
            rw [block_branch holds encloses within alone] at sound ended ⊢
            by_cases inBody : header ≤ close
            · exact enclosed (Nat.le_refl _) encloses sound.1 .branch (by simp [Block.parts]) behind inBody
            · exact reach (by simp [Block.parts])
                (later (by omega) positive sound.2.2 ended (by omega) before)
        | choice condition close afterwards holds encloses otherwise encloses' =>
            have bounds := encloses.bounds
            have bounds' := encloses'.bounds
            have filled : program.block (close + 3) stop (depth + 1 : Nat) ≠ .done (close + 1) := by
              intro empty
              have ended' : (program.block (close + 3) stop (depth + 1 : Nat)).ending = .ok afterwards :=
                encloses'.ended
              rw [empty] at ended'
              cases ended'
              omega
            rw [block_choice holds encloses otherwise encloses'] at sound ended ⊢
            by_cases inBody : header ≤ close
            · exact enclosed (Nat.le_refl _) encloses sound.1 .branch (by simp [Block.parts]) behind inBody
            · by_cases inAlternative : header ≤ afterwards
              · exact enclosed (by omega) encloses' sound.2.1 (.otherwise encloses.ended filled)
                  (by simp [Block.parts]) (by omega) inAlternative
              · exact reach (by simp [Block.parts])
                  (later (by omega) positive sound.2.2 ended (by omega) before)
        | loop condition close holds encloses =>
            have bounds := encloses.bounds
            rw [block_loop holds encloses] at sound ended ⊢
            by_cases inBody : header ≤ close
            · exact enclosed (Nat.le_refl _) encloses sound.1 .loop (by simp [Block.parts]) behind inBody
            · exact reach (by simp [Block.parts]) (later (by omega) positive sound.2 ended (by omega) before)
        | iterate digits close holds short encloses =>
            have bounds := encloses.bounds
            rw [block_iterate holds short encloses] at sound ended ⊢
            by_cases inBody : header ≤ close
            · exact enclosed (Nat.le_refl _) encloses sound.1 .iterate (by simp [Block.parts]) behind inBody
            · exact reach (by simp [Block.parts]) (later (by omega) positive sound.2 ended (by omega) before)
      · rw [block_of_le (by omega)] at ended
        cases ended
        omega

/-- What holds of every header in a block holds of every header in its parts. -/
theorem hereditary_heads (Closed : Nat → Block → Prop) :
    Hereditary fun block => ∀ header body, block.Heads header body → Closed header body where
  statement := by
    intro number name rest kept header body heads
    exact kept header body (.inside List.mem_cons_self heads)
  branch := by
    intro number condition inner alternative rest kept
    refine ⟨fun header body heads => ?_, fun header body heads => ?_, fun header body heads => ?_⟩
    all_goals exact kept header body (.inside (by simp [Block.parts]) heads)
  loop := by
    intro number condition inner rest kept
    refine ⟨fun header body heads => ?_, fun header body heads => ?_⟩
    all_goals exact kept header body (.inside (by simp [Block.parts]) heads)
  iterate := by
    intro number count inner rest kept
    refine ⟨?_, ?_, ?_⟩
    · exact fun header body heads => kept header body (.inside (by simp [Block.parts]) heads)
    · exact fun header body heads => kept header body (.inside (by simp [Block.parts]) heads)
    · intro fewer header body heads
      cases heads with
      | here opens =>
          cases opens with
          | iterate => exact kept _ _ (.here .iterate)
      | inside member heads => exact kept header body (.inside member heads)

end

/-- Matching by indentation agrees with matching by stack. Whenever a walk over a range returns a line, live or not,
the lines before it open and close blocks in a balanced way, and every control header among them is met. For every
control header that the walk meets, in blocks that it runs or only reads and in the instructions that it calls, every
pass over the header's body ends on the same closing line: the one that the stack of the balance check pairs with the
opening line behind the header, with as many tabs as both. -/
theorem indentation_agrees_with_stack (program : Program) (registry : Registry) (start stop depth last : Nat)
    (positive : 1 ≤ depth) (own : ∀ entry ∈ registry.entries, program.Defines entry)
    (returned : program.EndsOn registry (program.block start stop depth) last) :
    WellBracketed (program.extract start last) ∧
    (∀ header, start ≤ header → header < last → program.IsControlAt header →
      ∃ body, (program.block start stop depth).Heads header body) ∧
    ∀ left progress point, program.Visits registry ⟨left, program.block start stop depth, progress⟩ point →
      ∀ header body, point.block.Heads header body →
        ∃ close, program.Bracketed header close ∧ body.ending = .ok close ∧
          ∀ reached, program.EndsOn registry body reached → reached = close := by
  obtain ⟨sound, ended⟩ := returned.sound
  refine ⟨?_, ?_, ?_⟩
  · apply Neutral.wellBracketed
    by_cases ordered : start ≤ stop
    · exact (neutral_of_sound positive ordered sound ended).1
    · rw [block_of_le (by omega)] at ended
      cases ended
      rw [List.extract_eq_take_drop, Nat.sub_eq_zero_of_le (by omega), List.take_zero]
      exact Neutral.nil
  · intro header behind before control
    exact heads_of_isControlAt positive sound ended control behind before
  · intro left progress point visits header body heads
    have closed := visits.hereditary (hereditary_heads fun header body =>
      ∃ close, body.ending = .ok close ∧ program.Bracketed header close) ?_ ?_ header body heads
    · obtain ⟨close, ended, bracketed⟩ := closed
      refine ⟨close, bracketed, ended, fun reached ends => ?_⟩
      have ended' := ends.sound.2
      rw [ended] at ended'
      exact (Except.ok.inj ended').symm
    · intro name span found header body heads
      have defines := own _ (Registry.mem_of_find? found)
      obtain ⟨bodySound, _, bodyEnded⟩ := Block.skip_eq_ok_iff.mp defines.body
      have whole : program.sectionAt span.start span.stop instructionDepth =
          program.block span.start span.stop (2 : Nat) := sectionAt_of_ending bodyEnded
      rw [whole] at heads
      exact bracketed_of_heads (by decide) bodySound heads
    · intro header body heads
      exact bracketed_of_heads positive sound heads

theorem indentation_agrees_with_stack_tour :
    tour.EndsOn ⟨[("turnright", ⟨3, 7, by decide⟩)]⟩ (tour.block 9 21 (2 : Nat)) 21 ∧
      WellBracketed (tour.extract 9 21) ∧ tour.Bracketed 9 12 ∧ tour.Bracketed 17 20 ∧ tour.Bracketed 3 6 := by
  have returned : tour.EndsOn ⟨[("turnright", ⟨3, 7, by decide⟩)]⟩ (tour.block 9 21 (2 : Nat)) 21 := by
    refine Or.inr ⟨20, 985, { world := .corridor }, ⟨{ World.corridor with
      robot := ⟨⟨1, 0⟩, .south, 0⟩, steps := 4 }, [.turnLeft, .turnLeft, .turnLeft, .move]⟩, ?_⟩
    decide +kernel
  have steps : tour.block 9 21 (2 : Nat) =
      .loop 9 "front-is-clear" (.statement 11 "move" (.done 12))
        (.branch 13 "next-to-a-beeper" (.statement 15 "pickbeeper" (.done 16))
          (.statement 19 "turnright" (.done 20)) (.done 21)) := by
    decide +kernel
  have called : tour.sectionAt 3 7 instructionDepth =
      .iterate 3 3 (.statement 5 "turnleft" (.done 6)) (.done 7) := by
    decide +kernel
  obtain ⟨balanced, _, headers⟩ :=
    indentation_agrees_with_stack tour _ 9 21 2 21 (by decide) defines_tour returned
  rw [steps] at headers
  have atStart := headers 985 { world := { World.corridor with robot.position := ⟨1, 0⟩ } } _ .refl
  have found : Registry.find? ⟨[("turnright", ⟨3, 7, by decide⟩)]⟩ "turnright" = some ⟨3, 7, by decide⟩ := rfl
  have inCall := headers 985 { world := { World.corridor with robot.position := ⟨1, 0⟩ } }
    ⟨976, tour.sectionAt 3 7 instructionDepth, { world := { World.corridor with robot.position := ⟨1, 0⟩ } }⟩
    (((Relation.ReflTransGen.single (.afterLoop rfl rfl rfl)).tail (.intoOther rfl rfl rfl)).tail
      (.intoCall rfl found rfl rfl))
  rw [called] at inCall
  obtain ⟨_, loop, ended, _⟩ := atStart _ _ (.here .loop)
  cases ended
  obtain ⟨_, alternative, ended, _⟩ :=
    atStart _ _ (.inside (List.mem_cons_of_mem _ List.mem_cons_self) (.here (.otherwise rfl nofun)))
  cases ended
  obtain ⟨_, counted, ended, _⟩ := inCall _ _ (.here .iterate)
  cases ended
  exact ⟨returned, balanced, loop, alternative, counted⟩

end Program

end GridRobot
