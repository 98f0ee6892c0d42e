import GridRobot.Proofs.Skipping

namespace GridRobot

/-- Two cells in a row with the robot on the first of them, facing the second. -/
def World.corridor : World := { width := 2, height := 1, robot := ⟨⟨0, 0⟩, .east, 0⟩ }

namespace Program

section
variable {program : Program} {number stop depth : Nat}

/-- The ways in which a sound block can start. -/
inductive Starts (program : Program) (number stop depth : Nat) : Prop where
  | closing (terminated : Bool) (holds : program.Holds number (depth - 1) (.closing terminated))
  | statement (name : String) (terminated : Bool)
      (holds : program.Holds number depth (.statement name terminated))
      (punctuated : program.Punctuated number)
  | branch (condition : String) (close : Nat) (holds : program.Holds number depth (.branch condition))
      (encloses : program.Encloses number stop depth close)
      (alone : close + 1 < stop → ∀ line, program[close + 1]? = some line → line.kind ≠ .otherwise)
  | choice (condition : String) (close afterwards : Nat)
      (holds : program.Holds number depth (.branch condition))
      (encloses : program.Encloses number stop depth close)
      (otherwise : program.Holds (close + 1) depth .otherwise)
      (encloses' : program.Encloses (close + 1) stop depth afterwards)
  | loop (condition : String) (close : Nat) (holds : program.Holds number depth (.loop condition))
      (encloses : program.Encloses number stop depth close)
  | iterate (digits : String) (close : Nat) (holds : program.Holds number depth (.iterate digits))
      (short : Numeral.countDigits digits.toList ≤ Numeral.maxDigits)
      (encloses : program.Encloses number stop depth close)

/-- A body that ends on a punctuated line is enclosed. -/
theorem Encloses.of_body {header : Header} {close : Nat}
    (ended : (program.body header number stop depth
      fun first => program.block first stop (depth + 1 : Nat)).ending = .ok close)
    (checked : program.checkTerminatorAt close = .ok ()) : program.Encloses number stop depth close := by
  rw [body] at ended
  split at ended
  · cases ended
  · rename_i first opened
    obtain ⟨inRange, rfl, line, present, kind, sits⟩ := openBlock_eq_ok.mp opened
    obtain ⟨ended, inside⟩ := ending_closeBody_eq_ok.mp ended
    rw [Line.sitsAt_natCast] at sits
    exact ⟨⟨line, present, kind, of_decide_eq_true sits⟩, ended, inside, checkTerminatorAt_eq_ok.mp checked⟩

/-- If what follows a body is sound, the body is enclosed. -/
theorem Encloses.of_sound {header : Header} {next : Nat → Block}
    (sound : (program.afterBody (program.body header number stop depth
      fun first => program.block first stop (depth + 1 : Nat)) next).Sound) :
    ∃ close, program.Encloses number stop depth close := by
  rw [afterBody] at sound
  split at sound
  · exact sound.elim
  · rename_i close ended
    split at sound
    · exact sound.elim
    · rename_i checked
      exact ⟨close, Encloses.of_body ended checked⟩

/-- A sound branch is enclosed, and so is its alternative if there is one. -/
theorem Starts.of_alternative {condition : String} {close : Nat}
    (holds : program.Holds number depth (.branch condition))
    (encloses : program.Encloses number stop depth close)
    (sound : (program.block number stop depth).Sound) : program.Starts number stop depth := by
  rw [block_eq_alternative holds encloses, alternative] at sound
  split at sound
  · split at sound
    · exact sound.2.2.elim
    · rename_i line present
      split at sound
      · rename_i kind
        split at sound
        · exact sound.2.2.elim
        · rename_i indented
          rw [Line.checkIndent_eq_ok, Line.sitsAt_natCast] at indented
          obtain ⟨afterwards, encloses'⟩ := Encloses.of_sound sound.2.2
          exact .choice condition close afterwards holds encloses
            ⟨line, present, kind, of_decide_eq_true indented⟩ encloses'
      · rename_i other
        refine .branch condition close holds encloses fun _ found present' => ?_
        rw [present] at present'
        cases present'
        exact other
  · rename_i outside
    exact .branch condition close holds encloses fun inRange => absurd inRange outside

/-- A sound block starts on a line of the program. -/
theorem lt_length_of_sound {depth : Int} (inRange : number < stop)
    (sound : (program.block number stop depth).Sound) : number < program.length := by
  refine Nat.lt_of_not_le fun outside => ?_
  have absent : program[number]? = none := List.getElem?_eq_none outside
  obtain ⟨rounds, size⟩ : ∃ rounds, stop - number = rounds + 1 := ⟨stop - number - 1, by omega⟩
  rw [block, size, blockFrom, if_neg (by omega), absent] at sound
  exact sound

/-- A sound block starts in one of these ways. -/
theorem Starts.of_sound (positive : 1 ≤ depth) (inRange : number < stop)
    (sound : (program.block number stop depth).Sound) : program.Starts number stop depth := by
  have inside := lt_length_of_sound inRange sound
  have present : program[number]? = some (program[number]) := List.getElem?_eq_getElem inside
  generalize program[number] = line at present
  have afterOpened (header : Header) (first : Nat)
      (opened : program.openBlock header number stop depth = .ok first)
      (sound : (program.afterBody (closeBody header number stop
        (program.block first stop (depth + 1 : Nat))) fun first => program.block first stop depth).Sound) :
      (program.afterBody (program.body header number stop depth
        fun first => program.block first stop (depth + 1 : Nat))
          fun first => program.block first stop depth).Sound := by
    rw [body, opened]
    exact sound
  have whole := sound
  rw [block_eq_step inRange present] at sound
  split at sound
  · rename_i closes
    rw [Bool.and_eq_true, show (depth : Int) - 1 = ((depth - 1 : Nat) : Int) by omega,
      Line.sitsAt_natCast] at closes
    cases kind : line.kind with
    | closing terminated => exact .closing terminated ⟨line, present, kind, of_decide_eq_true closes.2⟩
    | _ =>
        rw [kind] at closes
        cases closes.1
  · rw [step, present] at sound
    simp only at sound
    split at sound
    · exact sound.elim
    · rename_i indented
      rw [Line.checkIndent_eq_ok, Line.sitsAt_natCast] at indented
      have sits : line.indent = depth := of_decide_eq_true indented
      split at sound
      · rename_i name terminated kind
        split at sound
        · exact sound.elim
        · rename_i checked
          rw [Line.checkTerminator_eq_ok, any_isClosing_iff] at checked
          exact .statement name terminated ⟨line, present, kind, sits⟩ ⟨line, present, checked⟩
      · rename_i condition kind
        split at sound
        · exact sound.2.2.elim
        · rename_i close ended
          split at sound
          · exact sound.2.2.elim
          · rename_i checked
            exact Starts.of_alternative ⟨line, present, kind, sits⟩ (Encloses.of_body ended checked) whole
      · rename_i condition kind
        split at sound
        · exact sound.elim
        · rename_i first opened
          obtain ⟨close, encloses⟩ := Encloses.of_sound (afterOpened .loop first opened sound.2)
          exact .loop condition close ⟨line, present, kind, sits⟩ encloses
      · rename_i digits kind
        split at sound
        · exact sound.elim
        · rename_i short
          split at sound
          · exact sound.elim
          · rename_i first opened
            obtain ⟨close, encloses⟩ := Encloses.of_sound (afterOpened .iterate first opened sound.2)
            exact .iterate digits close ⟨line, present, kind, sits⟩ (Nat.not_lt.mp short) encloses
      all_goals exact sound.elim

/-- Behind a sound branch that its range goes on after, there is a line of the program. -/
theorem within_of_sound {condition : String} {close : Nat} (holds : program.Holds number depth (.branch condition))
    (encloses : program.Encloses number stop depth close) (sound : (program.block number stop depth).Sound)
    (inRange : close + 1 < stop) : close + 1 < program.length := by
  refine Nat.lt_of_not_le fun outside => ?_
  have absent : program[close + 1]? = none := List.getElem?_eq_none outside
  rw [block_eq_alternative holds encloses, alternative, if_pos inRange, absent] at sound
  exact sound.2.2

/-- A sound block does not start with the header of an alternative. -/
theorem kind_ne_otherwise_of_sound (positive : 1 ≤ depth)
    (sound : (program.block number stop depth).Sound) (inRange : number < stop) (line : Line)
    (present : program[number]? = some line) : line.kind ≠ .otherwise := by
  have differs {depth : Nat} {kind : LineKind} (holds : program.Holds number depth kind)
      (other : kind ≠ .otherwise) : line.kind ≠ .otherwise := by
    obtain ⟨same, present', rfl, _⟩ := holds
    rw [present] at present'
    cases present'
    exact other
  cases Starts.of_sound positive inRange sound with
  | closing terminated holds => exact differs holds (by simp)
  | statement name terminated holds punctuated => exact differs holds (by simp)
  | branch condition close holds encloses alone => exact differs holds (by simp)
  | choice condition close afterwards holds encloses otherwise encloses' => exact differs holds (by simp)
  | loop condition close holds encloses => exact differs holds (by simp)
  | iterate digits close holds short encloses => exact differs holds (by simp)

end

/-- The headers of one block; a count may not have too many digits. -/
inductive IsControl : LineKind → Prop where
  | branch (condition : String) : IsControl (.branch condition)
  | loop (condition : String) : IsControl (.loop condition)
  | iterate (digits : String) (short : Numeral.countDigits digits.toList ≤ Numeral.maxDigits) :
      IsControl (.iterate digits)

/-- The grammar of blocks: the lines from `first` up to but not including `last` are a block at the
depth, and at most `height` blocks are open in it at once. -/
inductive Derives (program : Program) : (height depth first last : Nat) → Prop where
  | empty {height depth number : Nat} : Derives program height depth number number
  | statement {height depth number last : Nat} {name : String} {terminated : Bool}
      (holds : program.Holds number depth (.statement name terminated))
      (punctuated : program.Punctuated number)
      (rest : Derives program height depth (number + 1) last) : Derives program height depth number last
  | control {height depth number close last : Nat} {kind : LineKind} {terminated : Bool}
      (holds : program.Holds number depth kind) (control : IsControl kind)
      (opening : program.Holds (number + 1) depth .opening)
      (body : Derives program height (depth + 1) (number + 2) close)
      (closing : program.Holds close depth (.closing terminated))
      (punctuated : program.Punctuated close)
      (rest : Derives program (height + 1) depth (close + 1) last) :
      Derives program (height + 1) depth number last
  | choice {height depth number close afterwards last : Nat} {condition : String}
      {terminated terminated' : Bool}
      (holds : program.Holds number depth (.branch condition))
      (opening : program.Holds (number + 1) depth .opening)
      (body : Derives program height (depth + 1) (number + 2) close)
      (closing : program.Holds close depth (.closing terminated))
      (punctuated : program.Punctuated close)
      (otherwise : program.Holds (close + 1) depth .otherwise)
      (opening' : program.Holds (close + 2) depth .opening)
      (alternative : Derives program height (depth + 1) (close + 3) afterwards)
      (closing' : program.Holds afterwards depth (.closing terminated'))
      (punctuated' : program.Punctuated afterwards)
      (rest : Derives program (height + 1) depth (afterwards + 1) last) :
      Derives program (height + 1) depth number last

/-- The lines of a range up to `last` are a block, and there the range ends or the block is closed. -/
def Accepts (program : Program) (height depth start stop last : Nat) : Prop :=
  start ≤ last ∧ last ≤ stop ∧ program.Derives height depth start last ∧
    (last = stop ∨ ∃ terminated, program.Holds last (depth - 1) (.closing terminated))

section
variable {program : Program} {height depth number stop last : Nat}

/-- A derivation goes forward. -/
theorem Derives.le (derives : program.Derives height depth number last) : number ≤ last := by
  induction derives with
  | empty => exact Nat.le_refl _
  | statement holds punctuated rest inductionHypothesis => omega
  | control holds control opening body closing punctuated rest bodyHypothesis restHypothesis => omega
  | choice holds opening body closing punctuated otherwise opening' alternative closing' punctuated' rest
      bodyHypothesis alternativeHypothesis restHypothesis => omega

/-- Lines that skipping passes over are enclosed if a closing line follows them. -/
theorem Encloses.of_passed {inner close : Nat} {terminated : Bool} (inRange : close < stop)
    (opening : program.Holds (number + 1) depth .opening)
    (passed : ∀ {final}, (program.block close stop (depth + 1 : Nat)).skip inner = .ok final →
      (program.block (number + 2) stop (depth + 1 : Nat)).skip inner = .ok final)
    (closing : program.Holds close depth (.closing terminated)) (punctuated : program.Punctuated close) :
    program.Encloses number stop depth close ∧
      (program.block (number + 2) stop (depth + 1 : Nat)).skip inner = .ok close := by
  have skipped : (program.block (number + 2) stop (depth + 1 : Nat)).skip inner = .ok close := by
    apply passed
    rw [block_closing inRange closing]
    rfl
  exact ⟨⟨opening, (Block.skip_eq_ok_iff.mp skipped).2.2, inRange, punctuated⟩, skipped⟩

/-- Skipping passes over lines that derive a block. -/
theorem Derives.skip_eq {left final : Nat} (derives : program.Derives height depth number last)
    (positive : 1 ≤ depth) (room : Nesting.blockCost * height ≤ left) (inRange : last ≤ stop)
    (within : stop ≤ program.length) (rest : (program.block last stop depth).skip left = .ok final) :
    (program.block number stop depth).skip left = .ok final := by
  induction derives generalizing left final with
  | empty => exact rest
  | statement holds punctuated derives inductionHypothesis =>
      have forward := derives.le
      rw [block_statement (by omega) holds punctuated]
      exact inductionHypothesis positive room inRange rest
  | control holds control opening body closing punctuated derives bodyHypothesis restHypothesis =>
      have forward := derives.le
      have restSkipped := restHypothesis positive room inRange rest
      obtain ⟨inner, rfl, bodyRoom⟩ := Nesting.exists_inner room
      obtain ⟨encloses, bodySkipped⟩ := Encloses.of_passed (by omega) opening
        (bodyHypothesis (by omega) bodyRoom (by omega)) closing punctuated
      cases control with
      | branch condition =>
          have sound := (Block.skip_eq_ok_iff.mp restSkipped).1
          rw [block_branch holds encloses (fun behind => Nat.lt_of_lt_of_le behind within)
            (kind_ne_otherwise_of_sound positive sound),
            Block.skip_branch_eq_ok]
          exact ⟨inner, rfl, ⟨_, bodySkipped⟩, ⟨_, rfl⟩, restSkipped⟩
      | loop condition =>
          rw [block_loop holds encloses, Block.skip_loop_eq_ok]
          exact ⟨inner, rfl, ⟨_, bodySkipped⟩, restSkipped⟩
      | iterate digits short =>
          rw [block_iterate holds short encloses, Block.skip_iterate _ _ _ "", Block.skip_loop_eq_ok]
          exact ⟨inner, rfl, ⟨_, bodySkipped⟩, restSkipped⟩
  | choice holds opening body closing punctuated otherwise opening' alternative closing' punctuated' derives
      bodyHypothesis alternativeHypothesis restHypothesis =>
      have forward := derives.le
      have between := alternative.le
      have restSkipped := restHypothesis positive room inRange rest
      obtain ⟨inner, rfl, bodyRoom⟩ := Nesting.exists_inner room
      obtain ⟨encloses, bodySkipped⟩ := Encloses.of_passed (by omega) opening
        (bodyHypothesis (by omega) bodyRoom (by omega)) closing punctuated
      obtain ⟨encloses', alternativeSkipped⟩ := Encloses.of_passed (by omega) opening'
        (alternativeHypothesis (by omega) bodyRoom (by omega)) closing' punctuated'
      rw [block_choice holds encloses otherwise encloses', Block.skip_branch_eq_ok]
      exact ⟨inner, rfl, ⟨_, bodySkipped⟩, ⟨_, alternativeSkipped⟩, restSkipped⟩

/-- Lines that are skipped derive a block, and the range or the block ends behind them. -/
theorem derives_of_skip {left : Nat} (positive : 1 ≤ depth) (ordered : number ≤ stop)
    (skipped : (program.block number stop depth).skip left = .ok last) :
    program.Derives (left / Nesting.blockCost) depth number last ∧
      (last = stop ∨ ∃ terminated, program.Holds last (depth - 1) (.closing terminated)) := by
  induction distance : stop - number using Nat.strongRecOn generalizing number depth left last with
  | ind size inductionHypothesis =>
      have bodyDerives {line close inner reached : Nat} (behind : number ≤ line)
          (encloses : program.Encloses line stop depth close)
          (bodySkipped : (program.block (line + 2) stop (depth + 1 : Nat)).skip inner = .ok reached) :
          program.Derives (inner / Nesting.blockCost) (depth + 1) (line + 2) close ∧
            ∃ terminated, program.Holds close depth (.closing terminated) := by
        have bounds := encloses.bounds
        obtain ⟨_, _, ended⟩ := Block.skip_eq_ok_iff.mp bodySkipped
        rw [encloses.ended] at ended
        cases ended
        obtain ⟨derives, finished⟩ := inductionHypothesis (stop - (line + 2)) (by omega) (by omega)
          (by omega) bodySkipped rfl
        refine ⟨derives, finished.resolve_left (by omega)⟩
      have restDerives {first : Nat} (behind : number < first) (inside : first ≤ stop)
          (restSkipped : (program.block first stop depth).skip left = .ok last) :=
        inductionHypothesis (stop - first) (by omega) positive inside restSkipped rfl
      have controlDerives {kind : LineKind} {close inner reached : Nat}
          (holds : program.Holds number depth kind) (control : IsControl kind)
          (encloses : program.Encloses number stop depth close) (room : left = inner + Nesting.blockCost)
          (bodySkipped : (program.block (number + 2) stop (depth + 1 : Nat)).skip inner = .ok reached)
          (restSkipped : (program.block (close + 1) stop depth).skip left = .ok last) :
          program.Derives (left / Nesting.blockCost) depth number last ∧
            (last = stop ∨ ∃ terminated, program.Holds last (depth - 1) (.closing terminated)) := by
        have bounds := encloses.bounds
        obtain ⟨body, terminated, closing⟩ := bodyDerives (Nat.le_refl _) encloses bodySkipped
        obtain ⟨rest, finished⟩ := restDerives (by omega) (by omega) restSkipped
        rw [room, Nat.add_div_right _ (by decide)] at rest ⊢
        exact ⟨.control holds control encloses.opening body closing encloses.punctuated rest, finished⟩
      by_cases inRange : number < stop
      · have sound := (Block.skip_eq_ok_iff.mp skipped).1
        cases Starts.of_sound positive inRange sound with
        | closing terminated holds =>
            rw [block_eq_done positive inRange holds] at skipped
            cases skipped
            exact ⟨.empty, Or.inr ⟨terminated, holds⟩⟩
        | statement name terminated holds punctuated =>
            rw [block_statement inRange holds punctuated] at skipped
            obtain ⟨derives, finished⟩ := restDerives (by omega) (by omega) skipped
            exact ⟨.statement holds punctuated derives, finished⟩
        | branch condition close holds encloses alone =>
            rw [block_branch holds encloses (within_of_sound holds encloses sound) alone,
              Block.skip_branch_eq_ok] at skipped
            obtain ⟨inner, room, ⟨_, bodySkipped⟩, _, restSkipped⟩ := skipped
            exact controlDerives holds (.branch condition) encloses room bodySkipped restSkipped
        | choice condition close afterwards holds encloses otherwise encloses' =>
            have bounds := encloses.bounds
            have bounds' := encloses'.bounds
            rw [block_choice holds encloses otherwise encloses', Block.skip_branch_eq_ok] at skipped
            obtain ⟨inner, rfl, ⟨_, bodySkipped⟩, ⟨_, alternativeSkipped⟩, restSkipped⟩ := skipped
            obtain ⟨body, terminated, closing⟩ := bodyDerives (Nat.le_refl _) encloses bodySkipped
            obtain ⟨alternative, terminated', closing'⟩ :=
              bodyDerives (by omega) encloses' alternativeSkipped
            obtain ⟨rest, finished⟩ := restDerives (by omega) (by omega) restSkipped
            rw [Nat.add_div_right _ (by decide)] at rest ⊢
            exact ⟨.choice holds encloses.opening body closing encloses.punctuated otherwise
              encloses'.opening alternative closing' encloses'.punctuated rest, finished⟩
        | loop condition close holds encloses =>
            rw [block_loop holds encloses, Block.skip_loop_eq_ok] at skipped
            obtain ⟨inner, room, ⟨_, bodySkipped⟩, restSkipped⟩ := skipped
            exact controlDerives holds (.loop condition) encloses room bodySkipped restSkipped
        | iterate digits close holds short encloses =>
            rw [block_iterate holds short encloses, Block.skip_iterate _ _ _ "",
              Block.skip_loop_eq_ok] at skipped
            obtain ⟨inner, room, ⟨_, bodySkipped⟩, restSkipped⟩ := skipped
            exact controlDerives holds (.iterate digits short) encloses room bodySkipped restSkipped
      · rw [block_of_le (by omega)] at skipped
        cases skipped
        obtain rfl : number = stop := by omega
        exact ⟨.empty, Or.inl rfl⟩

/-- What a range accepts can be skipped where there is room for it. -/
theorem Accepts.skip_eq {left start : Nat} (accepts : program.Accepts height depth start stop last)
    (positive : 1 ≤ depth) (within : stop ≤ program.length) (room : Nesting.blockCost * height ≤ left) :
    (program.block start stop depth).skip left = .ok last := by
  obtain ⟨_, inRange, derives, finished⟩ := accepts
  apply derives.skip_eq positive room inRange within
  by_cases atEnd : last = stop
  · rw [block_of_le (Nat.le_of_eq atEnd.symm), atEnd]
    rfl
  · obtain ⟨terminated, holds⟩ := finished.resolve_left atEnd
    rw [block_eq_done positive (by omega) holds]
    rfl

/-- A range is skipped exactly if it is accepted and there is room for the blocks in it. -/
theorem skip_block_eq_ok_iff {left start : Nat} (positive : 1 ≤ depth) (ordered : start ≤ stop)
    (within : stop ≤ program.length) :
    (program.block start stop depth).skip left = .ok last ↔
      ∃ height, Nesting.blockCost * height ≤ left ∧ program.Accepts height depth start stop last := by
  constructor
  · intro skipped
    obtain ⟨derives, finished⟩ := derives_of_skip positive ordered skipped
    obtain ⟨_, _, ended⟩ := Block.skip_eq_ok_iff.mp skipped
    obtain ⟨forward, inRange⟩ := ending_block_bounds ordered ended
    exact ⟨left / Nesting.blockCost, Nat.mul_div_le _ _, forward, inRange, derives, finished⟩
  · rintro ⟨height, room, accepts⟩
    exact accepts.skip_eq positive within room

/-- A block is read in the same way if its range ends where the block does. -/
theorem skip_block_shrink {left start : Nat} (positive : 1 ≤ depth) (ordered : start ≤ stop)
    (within : stop ≤ program.length) (skipped : (program.block start stop depth).skip left = .ok last) :
    (program.block start last depth).skip left = .ok last := by
  obtain ⟨height, room, forward, inRange, derives, _⟩ :=
    (skip_block_eq_ok_iff positive ordered within).mp skipped
  have accepts : program.Accepts height depth start last last := ⟨forward, Nat.le_refl _, derives, Or.inl rfl⟩
  exact accepts.skip_eq positive (by omega) room

/-- A range is accepted up to one line at most. -/
theorem Accepts.unique {height' start last' : Nat} (positive : 1 ≤ depth) (within : stop ≤ program.length)
    (accepts : program.Accepts height depth start stop last)
    (accepts' : program.Accepts height' depth start stop last') : last = last' := by
  have skipped := accepts.skip_eq positive within
    (Nat.mul_le_mul_left Nesting.blockCost (Nat.le_max_left height height'))
  have skipped' := accepts'.skip_eq positive within
    (Nat.mul_le_mul_left Nesting.blockCost (Nat.le_max_right height height'))
  rw [skipped] at skipped'
  cases skipped'
  rfl

/-- Carrying out a block that is not live is skipping it. -/
theorem carryOut_eq_finished {registry : Registry} {fuel : Nat} {block : Block} {progress reached : Progress} :
    program.carryOut registry fuel false block progress = .finished last reached ↔
      reached = progress ∧ block.skip Nesting.limit = .ok last := by
  rw [carryOut, if_neg Bool.false_ne_true]
  cases block.skip Nesting.limit with
  | error problem => simp
  | ok number =>
      simp only [Outcome.finished.injEq, Except.ok.injEq]
      rw [and_comm, eq_comm (b := reached)]

theorem carryOut_eq_stopped {registry : Registry} {fuel : Nat} {block : Block} {progress reached : Progress}
    {problem : Stop} :
    program.carryOut registry fuel false block progress = .stopped problem reached ↔
      reached = progress ∧ block.skip Nesting.limit = .error problem := by
  rw [carryOut, if_neg Bool.false_ne_true]
  cases block.skip Nesting.limit with
  | ok number => simp
  | error found =>
      simp only [Outcome.stopped.injEq, Except.error.injEq]
      rw [and_comm, eq_comm (b := reached)]

end

/-- The structural walk over a range returns exactly the line up to which the grammar accepts the range
within the nesting limit. There is one such line at most; if the text is accepted, only its nesting can
stop the walk, and if it is not, the walk stops. -/
theorem walk_finished_iff_accepts (program : Program) (depth start stop : Nat) (positive : 1 ≤ depth)
    (ordered : start ≤ stop) (within : stop ≤ program.length) (registry : Registry) (fuel : Nat)
    (progress : Progress) :
    (∀ last reached,
      program.carryOut registry fuel false (program.block start stop depth) progress = .finished last reached ↔
        reached = progress ∧ ∃ height, Nesting.blockCost * height ≤ Nesting.limit ∧
          program.Accepts height depth start stop last) ∧
    (∀ height height' last last', program.Accepts height depth start stop last →
      program.Accepts height' depth start stop last' → last = last') ∧
    (∀ height last, program.Accepts height depth start stop last →
      program.carryOut registry fuel false (program.block start stop depth) progress = .finished last progress ∨
      program.carryOut registry fuel false (program.block start stop depth) progress =
        .stopped .nestingTooDeep progress) ∧
    ((¬ ∃ height last, program.Accepts height depth start stop last) →
      ∃ problem, program.carryOut registry fuel false (program.block start stop depth) progress =
        .stopped problem progress) := by
  refine ⟨?_, ?_, ?_, ?_⟩
  · intro last reached
    rw [carryOut_eq_finished, skip_block_eq_ok_iff positive ordered within]
  · intro height height' last last' accepts accepts'
    exact accepts.unique positive within accepts'
  · intro height last accepts
    have skipped := accepts.skip_eq positive within (Nat.le_refl _)
    obtain ⟨sound, _, ended⟩ := Block.skip_eq_ok_iff.mp skipped
    rcases sound.skip_cases Nesting.limit with ⟨last', skipped'⟩ | tooDeep
    · have ended' := (Block.skip_eq_ok_iff.mp skipped').2.2
      rw [ended] at ended'
      cases ended'
      exact Or.inl (carryOut_eq_finished.mpr ⟨rfl, skipped'⟩)
    · exact Or.inr (carryOut_eq_stopped.mpr ⟨rfl, tooDeep⟩)
  · intro refused
    cases skipped : (program.block start stop depth).skip Nesting.limit with
    | ok last =>
        obtain ⟨height, _, accepts⟩ := (skip_block_eq_ok_iff positive ordered within).mp skipped
        exact absurd ⟨height, last, accepts⟩ refused
    | error problem => exact ⟨problem, carryOut_eq_stopped.mpr ⟨rfl, skipped⟩⟩

/-- A loop around a branch with an alternative, before the line that closes the block around it. -/
def nestedLines : List String :=
  ["\t\tWHILE front-is-clear DO", "\t\tBEGIN", "\t\t\tIF next-to-a-beeper THEN", "\t\t\tBEGIN",
    "\t\t\t\tpickbeeper", "\t\t\tEND;", "\t\t\tELSE", "\t\t\tBEGIN", "\t\t\tEND;", "\t\t\tmove", "\t\tEND",
    "\tEND"]

theorem walk_finished_iff_accepts_nested :
    (1 ≤ 2 ∧ 0 ≤ 12 ∧ 12 ≤ (Program.classify nestedLines).length) ∧
      ∃ height, Nesting.blockCost * height ≤ Nesting.limit ∧
        (Program.classify nestedLines).Accepts height 2 0 12 11 := by
  refine ⟨by decide, ?_⟩
  have walk := walk_finished_iff_accepts (Program.classify nestedLines) 2 0 12 (by decide) (by decide)
    (by decide) {} 0 { world := .corridor }
  exact ((walk.1 11 { world := .corridor }).mp (by decide +kernel)).2

end Program

end GridRobot
