import GridRobot.Report
import GridRobot.Proofs.Advancing

namespace GridRobot

/-- Where there is more room, at least as much is left inside. -/
theorem Nesting.enter?_of_le {cost left inner more : Nat} (entered : enter? cost left = some inner)
    (room : left ≤ more) : ∃ inner', enter? cost more = some inner' ∧ inner ≤ inner' := by
  have same := enter?_eq_some.mp entered
  exact ⟨more - cost, enter?_eq_some.mpr (by omega), by omega⟩

theorem Nesting.lt_of_enter? {cost left inner : Nat} (entered : enter? cost left = some inner)
    (positive : 0 < cost) : inner < left := by
  have same := enter?_eq_some.mp entered
  omega

namespace Block

/-- Skipping a block has the same result with more room, unless the block nests too deeply. -/
theorem skip_of_room {block : Block} {left more : Nat} (fits : block.skip left ≠ .error .nestingTooDeep)
    (room : left ≤ more) : block.skip more = block.skip left := by
  fun_induction skip left block generalizing more with
  | case1 => rfl
  | case2 => rfl
  | case3 left number name rest inductionHypothesis => exact inductionHypothesis fits room
  | case4 => exact absurd rfl fits
  | case5 left number condition body alternative rest inner entered problem unread bodyHypothesis =>
      obtain ⟨inner', entered', room'⟩ := Nesting.enter?_of_le entered room
      rw [unread] at bodyHypothesis
      simp only [skip, entered', bodyHypothesis fits room']
  | case6 left number condition body alternative rest inner entered last read problem unread bodyHypothesis
      alternativeHypothesis =>
      obtain ⟨inner', entered', room'⟩ := Nesting.enter?_of_le entered room
      rw [read] at bodyHypothesis
      rw [unread] at alternativeHypothesis
      simp only [skip, entered', bodyHypothesis (by simp) room', alternativeHypothesis fits room']
  | case7 left number condition body alternative rest inner entered last read last' read' bodyHypothesis
      alternativeHypothesis restHypothesis =>
      obtain ⟨inner', entered', room'⟩ := Nesting.enter?_of_le entered room
      rw [read] at bodyHypothesis
      rw [read'] at alternativeHypothesis
      simp only [skip, entered', bodyHypothesis (by simp) room', alternativeHypothesis (by simp) room',
        restHypothesis fits room]
  | case8 => exact absurd rfl fits
  | case9 left number condition body rest inner entered problem unread bodyHypothesis =>
      obtain ⟨inner', entered', room'⟩ := Nesting.enter?_of_le entered room
      rw [unread] at bodyHypothesis
      simp only [skip, entered', bodyHypothesis fits room']
  | case10 left number condition body rest inner entered last read bodyHypothesis restHypothesis =>
      obtain ⟨inner', entered', room'⟩ := Nesting.enter?_of_le entered room
      rw [read] at bodyHypothesis
      simp only [skip, entered', bodyHypothesis (by simp) room', restHypothesis fits room]
  | case11 => exact absurd rfl fits
  | case12 left number count body rest inner entered problem unread bodyHypothesis =>
      obtain ⟨inner', entered', room'⟩ := Nesting.enter?_of_le entered room
      rw [unread] at bodyHypothesis
      simp only [skip, entered', bodyHypothesis fits room']
  | case13 left number count body rest inner entered last read bodyHypothesis restHypothesis =>
      obtain ⟨inner', entered', room'⟩ := Nesting.enter?_of_le entered room
      rw [read] at bodyHypothesis
      simp only [skip, entered', bodyHypothesis (by simp) room', restHypothesis fits room]

theorem Spells.ne_outOfFuel {program : Program} {block : Block} {left : Nat} {problem : Stop}
    (spells : block.Spells program (· ≠ .outOfFuel)) (unread : block.skip left = .error problem) :
    problem ≠ .outOfFuel := by
  rcases spells.of_skip unread with other | rfl
  · exact other
  · exact nofun

end Block

namespace Program

section
variable {program : Program} {registry : Registry} {left inner more : Nat} {block body rest : Block}
  {progress reached : Progress} {outcome : Outcome}

/-- A run has the same outcome with more room, unless it nests too deeply. -/
theorem Runs.of_room (runs : program.Runs registry left block progress outcome)
    (fits : ∀ reached, outcome ≠ .stopped .nestingTooDeep reached) (room : left ≤ more) :
    program.Runs registry more block progress outcome := by
  have unreadable {block : Block} {left more : Nat} {problem : Stop} {reached : Progress}
      (unread : block.skip left = .error problem)
      (fits : ∀ reached', Outcome.stopped problem reached ≠ .stopped .nestingTooDeep reached')
      (room : left ≤ more) : block.skip more = .error problem := by
    rw [Block.skip_of_room _ room, unread]
    rw [unread]
    rintro same
    cases same
    exact fits reached rfl
  have readable {block : Block} {left more last : Nat} (read : block.skip left = .ok last) (room : left ≤ more) :
      block.skip more = .ok last := by
    rw [Block.skip_of_room (by rw [read]; nofun) room, read]
  induction runs generalizing more with
  | outOfFuel => exact .outOfFuel
  | done => exact .done
  | broken => exact .broken
  | action known performed after afterHypothesis => exact .action known performed (afterHypothesis fits room)
  | actionFails known failed => exact .actionFails known failed
  | unknownStatement other missing => exact .unknownStatement other missing
  | selfCall other found calls => exact .selfCall other found calls
  | callTooDeep other found sober refused => exact absurd rfl (fits _)
  | callStops other found sober entered body bodyHypothesis =>
      obtain ⟨inner', entered', room'⟩ := Nesting.enter?_of_le entered room
      exact .callStops other found sober entered' (bodyHypothesis fits room')
  | call other found sober entered body after bodyHypothesis afterHypothesis =>
      obtain ⟨inner', entered', room'⟩ := Nesting.enter?_of_le entered room
      exact .call other found sober entered' (bodyHypothesis nofun room') (afterHypothesis fits room)
  | branchUnknown unknown => exact .branchUnknown unknown
  | branchTooDeep known refused => exact absurd rfl (fits _)
  | takenStops holds entered inside insideHypothesis =>
      obtain ⟨inner', entered', room'⟩ := Nesting.enter?_of_le entered room
      exact .takenStops holds entered' (insideHypothesis fits room')
  | takenUnread holds entered inside unread insideHypothesis =>
      obtain ⟨inner', entered', room'⟩ := Nesting.enter?_of_le entered room
      exact .takenUnread holds entered' (insideHypothesis nofun room') (unreadable unread fits room')
  | taken holds entered inside skipped after insideHypothesis afterHypothesis =>
      obtain ⟨inner', entered', room'⟩ := Nesting.enter?_of_le entered room
      exact .taken holds entered' (insideHypothesis nofun room') (readable skipped room')
        (afterHypothesis fits room)
  | otherUnread fails entered unread =>
      obtain ⟨inner', entered', room'⟩ := Nesting.enter?_of_le entered room
      exact .otherUnread fails entered' (unreadable unread fits room')
  | otherStops fails entered skipped inside insideHypothesis =>
      obtain ⟨inner', entered', room'⟩ := Nesting.enter?_of_le entered room
      exact .otherStops fails entered' (readable skipped room') (insideHypothesis fits room')
  | other fails entered skipped inside after insideHypothesis afterHypothesis =>
      obtain ⟨inner', entered', room'⟩ := Nesting.enter?_of_le entered room
      exact .other fails entered' (readable skipped room') (insideHypothesis nofun room')
        (afterHypothesis fits room)
  | loopUnknown unknown => exact .loopUnknown unknown
  | loopTooDeep known refused => exact absurd rfl (fits _)
  | loopStops holds entered inside insideHypothesis =>
      obtain ⟨inner', entered', room'⟩ := Nesting.enter?_of_le entered room
      exact .loopStops holds entered' (insideHypothesis fits room')
  | loopAgain holds entered inside after insideHypothesis afterHypothesis =>
      obtain ⟨inner', entered', room'⟩ := Nesting.enter?_of_le entered room
      exact .loopAgain holds entered' (insideHypothesis nofun room') (afterHypothesis fits room)
  | loopUnread fails entered unread =>
      obtain ⟨inner', entered', room'⟩ := Nesting.enter?_of_le entered room
      exact .loopUnread fails entered' (unreadable unread fits room')
  | loopEnds fails entered skipped after afterHypothesis =>
      obtain ⟨inner', entered', room'⟩ := Nesting.enter?_of_le entered room
      exact .loopEnds fails entered' (readable skipped room') (afterHypothesis fits room)
  | iterateTooDeep refused => exact absurd rfl (fits _)
  | iterateStops entered inside insideHypothesis =>
      obtain ⟨inner', entered', room'⟩ := Nesting.enter?_of_le entered room
      exact .iterateStops entered' (insideHypothesis fits room')
  | iterateAgain entered inside after insideHypothesis afterHypothesis =>
      obtain ⟨inner', entered', room'⟩ := Nesting.enter?_of_le entered room
      exact .iterateAgain entered' (insideHypothesis nofun room') (afterHypothesis fits room)
  | iterateUnread entered unread =>
      obtain ⟨inner', entered', room'⟩ := Nesting.enter?_of_le entered room
      exact .iterateUnread entered' (unreadable unread fits room')
  | iterateEnds entered skipped after afterHypothesis =>
      obtain ⟨inner', entered', room'⟩ := Nesting.enter?_of_le entered room
      exact .iterateEnds entered' (readable skipped room') (afterHypothesis fits room)

/-- The run of a block comes to an end. -/
def Terminates (program : Program) (registry : Registry) (left : Nat) (block : Block) (progress : Progress) :
    Prop :=
  ∃ outcome, program.Runs registry left block progress outcome ∧ outcome.Ended

/-- A step that runs a block and goes on behind it comes to an end if both do. -/
theorem Terminates.andThen (inside : program.Terminates registry inner body progress)
    (stops : ∀ {problem reached}, program.Runs registry inner body progress (.stopped problem reached) →
      program.Runs registry left block progress (.stopped problem reached))
    (goesOn : ∀ {last reached}, program.Runs registry inner body progress (.finished last reached) →
      program.Terminates registry left block progress) : program.Terminates registry left block progress := by
  obtain ⟨outcome, runs, ended⟩ := inside
  cases outcome with
  | finished last reached => exact goesOn runs
  | stopped problem reached => exact ⟨_, stops runs, ended⟩

/-- A step that goes on with a block comes to an end if the block does. -/
theorem Terminates.before (after : program.Terminates registry left rest reached)
    (leads : ∀ {outcome}, program.Runs registry left rest reached outcome →
      program.Runs registry left block progress outcome) : program.Terminates registry left block progress := by
  obtain ⟨outcome, runs, ended⟩ := after
  exact ⟨outcome, leads runs, ended⟩

/-- A run that stops for another reason than its fuel has come to an end. -/
theorem Terminates.stops {problem : Stop}
    (runs : program.Runs registry left block progress (.stopped problem reached)) (ended : problem ≠ .outOfFuel) :
    program.Terminates registry left block progress :=
  ⟨_, runs, ended⟩

end

/-- No line of the program is the header of a loop with a condition. -/
def Loopless (program : Program) : Prop :=
  ∀ line ∈ program, line.kind.header? ≠ some .loop

instance (program : Program) : Decidable program.Loopless :=
  inferInstanceAs (Decidable (∀ line ∈ program, _))

section
variable {program : Program} {registry : Registry} {left : Nat} {block : Block} {progress : Progress}

theorem Loopless.hasKindAt (loopless : program.Loopless) {number : Nat} {condition : String} :
    program.hasKindAt number (.loop condition) ≠ true := by
  intro holds
  obtain ⟨line, present, kind⟩ := hasKindAt_iff.mp holds
  exact loopless line (List.mem_of_getElem? present) (congrArg LineKind.header? kind)

theorem Flaws.ne_outOfFuel {stop : Nat} {problem : Stop} (flaws : program.Flaws stop problem) :
    problem ≠ .outOfFuel := by
  cases flaws with
  | rejected rejects => cases rejects <;> exact nofun
  | unterminated inside => exact nofun
  | missing inRange absent => exact nofun

/-- Reading a section takes no fuel of the run. -/
theorem fuelless_sectionAt {start stop : Nat} {depth : Int} :
    (program.sectionAt start stop depth).Spells program (· ≠ .outOfFuel) := by
  apply spells_sectionAt.mono
  rintro problem (flaws | ⟨fault, rfl⟩)
  · exact flaws.ne_outOfFuel
  · exact nofun

/-- A statement comes to an end if what it calls and what follows it do. -/
theorem Terminates.statement {number : Nat} {name : String} {rest : Block}
    (calls : ∀ {inner} (span : Span) progress, inner < left → program.Terminates registry inner
      (program.sectionAt span.start span.stop instructionDepth) progress)
    (after : ∀ reached, program.Terminates registry left rest reached) :
    program.Terminates registry left (.statement number name rest) progress := by
  cases known : Action.ofName? name with
  | some action =>
      cases performed : progress.world.perform action with
      | error hindrance => exact .stops (.actionFails known performed) (by cases hindrance <;> nofun)
      | ok world => exact (after _).before fun runs => .action known performed runs
  | none =>
      cases found : registry.find? name with
      | none => exact .stops (.unknownStatement known found) nofun
      | some span =>
          cases sober : program.selfCall? name span with
          | some guilty => exact .stops (.selfCall known found sober) nofun
          | none =>
              cases entered : Nesting.enter? Nesting.callCost left with
              | none => exact .stops (.callTooDeep known found sober entered) nofun
              | some inner =>
                  have deeper : inner < left := Nesting.lt_of_enter? entered (by decide)
                  refine (calls span progress deeper).andThen ?_ ?_
                  · exact fun runs => .callStops known found sober entered runs
                  · exact fun runs => (after _).before fun runs' => .call known found sober entered runs runs'

/-- A branch comes to an end if both its blocks and what follows it do. -/
theorem Terminates.branch {number : Nat} {condition : String} {body alternative rest : Block}
    (bodySpells : body.Spells program (· ≠ .outOfFuel)) (otherSpells : alternative.Spells program (· ≠ .outOfFuel))
    (inside : ∀ {inner}, inner < left → program.Terminates registry inner body progress)
    (other : ∀ {inner}, inner < left → program.Terminates registry inner alternative progress)
    (after : ∀ reached, program.Terminates registry left rest reached) :
    program.Terminates registry left (.branch number condition body alternative rest) progress := by
  cases answer : progress.world.ask? condition with
  | none => exact .stops (.branchUnknown answer) nofun
  | some taken =>
      cases entered : Nesting.enter? Nesting.blockCost left with
      | none => exact .stops (.branchTooDeep answer entered) nofun
      | some inner =>
          have deeper : inner < left := Nesting.lt_of_enter? entered (by decide)
          cases taken with
          | true =>
              refine (inside deeper).andThen (fun runs => .takenStops answer entered runs) ?_
              intro last reached runs
              cases skipped : alternative.skip inner with
              | error problem =>
                  exact .stops (.takenUnread answer entered runs skipped) (otherSpells.ne_outOfFuel skipped)
              | ok last' => exact (after _).before fun runs' => .taken answer entered runs skipped runs'
          | false =>
              cases skipped : body.skip inner with
              | error problem =>
                  exact .stops (.otherUnread answer entered skipped) (bodySpells.ne_outOfFuel skipped)
              | ok last =>
                  refine (other deeper).andThen (fun runs => .otherStops answer entered skipped runs) ?_
                  exact fun runs => (after _).before fun runs' => .other answer entered skipped runs runs'

/-- A counted loop comes to an end, however often it repeats, if its body and what follows it do. -/
theorem Terminates.iterate {number count : Nat} {body rest : Block}
    (bodySpells : body.Spells program (· ≠ .outOfFuel))
    (inside : ∀ {inner} progress, inner < left → program.Terminates registry inner body progress)
    (after : ∀ reached, program.Terminates registry left rest reached) :
    program.Terminates registry left (.iterate number count body rest) progress := by
  cases entered : Nesting.enter? Nesting.blockCost left with
  | none => exact .stops (.iterateTooDeep entered) nofun
  | some inner =>
      have deeper : inner < left := Nesting.lt_of_enter? entered (by decide)
      induction count generalizing progress with
      | zero =>
          cases skipped : body.skip inner with
          | error problem =>
              exact .stops (.iterateUnread entered skipped) (bodySpells.ne_outOfFuel skipped)
          | ok last => exact (after _).before fun runs => .iterateEnds entered skipped runs
      | succ more again =>
          refine (inside progress deeper).andThen (fun runs => .iterateStops entered runs) ?_
          exact fun runs => again.before fun runs' => .iterateAgain entered runs runs'

/-- Where no line is the header of a loop, every block comes to an end, whatever the instructions are. -/
theorem Loopless.terminates (loopless : program.Loopless) (registry : Registry)
    (spells : block.Spells program (· ≠ .outOfFuel)) (left : Nat) (progress : Progress) :
    program.Terminates registry left block progress := by
  -- Calls lead anywhere in the program, but every call and every inner block uses up nesting: the induction is on
  -- the nesting that is left, then on the block, and then on the repetitions.
  induction left using Nat.strongRecOn generalizing block progress with
  | ind left deeper =>
      induction block generalizing progress with
      | done number => exact ⟨_, .done, trivial⟩
      | broken problem => exact .stops .broken spells
      | statement number name rest restHypothesis =>
          apply Terminates.statement
          · exact fun span progress less => deeper _ less fuelless_sectionAt progress
          · exact restHypothesis spells.2
      | branch number condition body alternative rest _ _ restHypothesis =>
          obtain ⟨_, bodySpells, otherSpells, restSpells⟩ := spells
          apply Terminates.branch bodySpells otherSpells
          · exact fun less => deeper _ less bodySpells progress
          · exact fun less => deeper _ less otherSpells progress
          · exact restHypothesis restSpells
      | loop number condition body rest => exact absurd spells.1 loopless.hasKindAt
      | iterate number count body rest _ restHypothesis =>
          obtain ⟨_, bodySpells, restSpells⟩ := spells
          apply Terminates.iterate bodySpells
          · exact fun progress less => deeper _ less bodySpells progress
          · exact restHypothesis restSpells

/-- A definition takes no fuel of the run. -/
theorem ne_outOfFuel_of_define {number stop : Nat} {problem : Stop}
    (refused : program.define number stop registry = .error problem) : problem ≠ .outOfFuel := by
  rw [define] at refused
  split at refused
  · cases refused
    simp
  · rename_i line found
    have present : number < program.length := (List.getElem?_eq_some_iff.mp found).1
    simp only at refused
    split at refused
    · cases refused
      simp
    · split at refused
      · rename_i unopened
        cases refused
        exact (flaws_of_openBlock present unopened).ne_outOfFuel
      · rename_i first opened
        have spells (header : Header) (depth : Int) :
            (closeBody header number stop (program.block first stop depth)).Spells program (· ≠ .outOfFuel) :=
          (spells_closeBody present (spells_blockFrom program stop _ depth first)).mono fun _ => Flaws.ne_outOfFuel
        split at refused
        · rename_i unread
          cases refused
          exact (spells _ _).ne_outOfFuel unread
        · split at refused
          · split at refused
            · cases refused
              simp
            · cases refused
          · cases refused
            simp

theorem ne_outOfFuel_of_declare {stop fuel number : Nat} {known : Registry} {problem : Stop}
    (refused : program.declare stop fuel number registry = (.error problem, known)) : problem ≠ .outOfFuel := by
  induction fuel generalizing number registry with
  | zero =>
      cases refused
      simp
  | succ fuel inductionHypothesis =>
      rw [declare] at refused
      split at refused
      · cases refused
        simp
      · split at refused
        · cases refused
          simp
        · split at refused
          · cases refused
            simp
          · split at refused
            · split at refused
              · rename_i rejected
                cases refused
                exact ne_outOfFuel_of_define rejected
              · exact inductionHypothesis refused
            · cases refused
            · cases refused
              simp

/-- With more room a section settles in the same way, unless it nests too deeply. -/
theorem Loopless.settles (loopless : program.Loopless) (registry : Registry) (start stop : Nat) (depth : Int)
    (left : Nat) (progress : Progress) :
    ∃ outcome, outcome.Ended ∧
      program.Settles registry left (program.sectionAt start stop depth) progress outcome ∧
      ∀ more, left ≤ more → (∃ reached, outcome = .stopped .nestingTooDeep reached) ∨
        program.Settles registry more (program.sectionAt start stop depth) progress outcome := by
  obtain ⟨outcome, runs, ended⟩ := loopless.terminates registry fuelless_sectionAt left progress
  refine ⟨outcome, ended, runs.settles ended, fun more room => ?_⟩
  by_cases tooDeep : ∃ reached, outcome = .stopped .nestingTooDeep reached
  · exact Or.inl tooDeep
  · exact Or.inr ((runs.of_room (not_exists.mp tooDeep) room).settles ended)

/-- Where no line is the header of a loop, a whole run comes to an end. -/
theorem Loopless.run_eq (loopless : program.Loopless) (world : World) (registry : Registry) :
    ∃ execution enough, (∀ fuel, enough ≤ fuel → program.run fuel world registry = execution) ∧
      execution.stop ≠ some .outOfFuel := by
  cases marked : program.checkMarkers with
  | error problem =>
      refine ⟨_, 0, fun fuel _ => by rw [run, marked], ?_⟩
      rw [checkMarkers] at marked
      split at marked
      · cases marked
        simp
      · split at marked
        · cases marked
          simp
        · cases marked
  | ok =>
      cases declared : program.declare program.turnoffNumber program.turnoffNumber 1 registry with
      | mk result known =>
          cases result with
          | error problem =>
              refine ⟨_, 0, fun fuel _ => by rw [run, marked, declared], ?_⟩
              intro stopped
              exact ne_outOfFuel_of_declare declared (Option.some.inj stopped)
          | ok start =>
              obtain ⟨outcome, ended, ⟨enough, settled⟩, _⟩ := loopless.settles known (start + 1)
                program.turnoffNumber executionDepth Nesting.limit { world }
              refine ⟨outcome.execution known, enough, ?_, ?_⟩
              · intro fuel fed
                rw [run_of_declare marked declared, ← settled (fuel - enough), Nat.add_sub_cancel' fed]
              · intro stopped
                obtain ⟨reached, rfl⟩ := stop_execution_eq_some stopped
                exact ended rfl

end

end Program

namespace Performance

variable {α β γ : Type}

/-- A part of a run on stage that has come to its end does the same with more fuel. -/
def Steady (part fed : Performance α β) : Prop :=
  ∀ stage, (∃ reached, part stage = .error (.problem .outOfFuel) reached) ∨ fed stage = part stage

theorem Steady.refl (part : Performance α β) : Steady part part :=
  fun _ => Or.inr rfl

theorem Steady.bind {part fed : Performance α β} {next fed' : β → Performance α γ} (first : Steady part fed)
    (second : ∀ value, Steady (next value) (fed' value)) : Steady (part >>= next) (fed >>= fed') := by
  intro stage
  rcases first stage with ⟨reached, out⟩ | same
  · exact Or.inl ⟨reached, bind_of_error out⟩
  · cases done : part stage with
    | ok value middle =>
        rw [bind_of_ok done, bind_of_ok (same.trans done)]
        exact second value middle
    | error reason middle =>
        rw [bind_of_error done, bind_of_error (same.trans done)]
        exact Or.inr rfl

variable [Listener α] {program : Program}

/-- The induction is on the fuel: every step hands on one unit less. -/
theorem steady_play (fuel left : Nat) (block : Block) :
    Steady (play program fuel left block : Performance α Nat) (play program (fuel + 1) left block) := by
  induction fuel generalizing left block with
  | zero => exact fun stage => Or.inl ⟨stage, rfl⟩
  | succ fuel inductionHypothesis =>
      cases block with
      | done number => exact .refl _
      | broken problem => exact .refl _
      | statement number name rest =>
          rw [play, play]
          split
          · exact (Steady.refl _).bind fun _ => inductionHypothesis left rest
          · refine (Steady.refl _).bind fun span => (Steady.refl _).bind fun inner => ?_
            exact (inductionHypothesis _ _).bind fun _ => inductionHypothesis left rest
      | branch number condition body alternative rest =>
          rw [play, play]
          refine (Steady.refl _).bind fun taken => (Steady.refl _).bind fun inner => ?_
          split
          · refine (inductionHypothesis _ _).bind fun _ => (Steady.refl _).bind fun _ => ?_
            exact inductionHypothesis left rest
          · refine (Steady.refl _).bind fun _ => (inductionHypothesis _ _).bind fun _ => ?_
            exact inductionHypothesis left rest
      | loop number condition body rest =>
          rw [play, play]
          refine (Steady.refl _).bind fun holds => (Steady.refl _).bind fun inner => ?_
          split
          · refine (inductionHypothesis _ _).bind fun _ => (Steady.refl _).bind fun again => ?_
            split
            · exact inductionHypothesis left _
            · exact inductionHypothesis left rest
          · exact (Steady.refl _).bind fun _ => inductionHypothesis left rest
      | iterate number count body rest =>
          rw [play, play]
          refine (Steady.refl _).bind fun inner => ?_
          cases count with
          | zero => exact (Steady.refl _).bind fun _ => inductionHypothesis left rest
          | succ more =>
              refine (inductionHypothesis _ _).bind fun _ => ?_
              cases more with
              | zero => exact inductionHypothesis left rest
              | succ count => exact inductionHypothesis left _

theorem steady_run (program : Program) (fuel : Nat) :
    Steady (run program fuel : Performance α Unit) (run program (fuel + 1)) :=
  (Steady.refl _).bind fun _ => (Steady.refl _).bind fun _ => (steady_play fuel _ _).bind fun _ => .refl _

end Performance

namespace Program

/-- A failure that breaks off a run is handed on, or it is the run's own and reported. -/
theorem reported_of_reason {α : Type} {watched : Watched α} {number : Nat} {failure : Failure}
    (broken : watched.reason? = some (.ofFailure number failure)) :
    (watched.failure = none ∧ ∃ report, Report.ofExecution watched.execution = .ok report) ∨
      watched.failure = some failure := by
  rw [Watched.reason?] at broken
  cases failed : watched.failure with
  | some other =>
      rw [failed] at broken
      cases failure <;> cases broken <;> exact Or.inr rfl
  | none =>
      rw [failed] at broken
      obtain ⟨problem, stopped, same⟩ := Option.map_eq_some_iff.mp broken
      refine Or.inl ⟨rfl, ?_⟩
      rw [Report.ofExecution, stopped]
      cases failure <;> cases same <;> exact ⟨_, rfl⟩

section
variable {α : Type} [Listener α] {program : Program} {world : World} {registry : Registry} {listeners : List α}
  {workspace : Workspace}

/-- A run before listeners that has come to its end is the same with more fuel. -/
theorem watch_of_enough {fuel more : Nat}
    (ended : (program.watch fuel world registry listeners workspace).reason? ≠ some (.problem .outOfFuel))
    (fed : fuel ≤ more) :
    program.watch more world registry listeners workspace = program.watch fuel world registry listeners workspace := by
  induction fed with
  | refl => rfl
  | @step more fed inductionHypothesis =>
      rw [← inductionHypothesis]
      rw [← inductionHypothesis] at ended
      rcases Performance.steady_run program more ⟨{ world }, registry, listeners, workspace⟩ with ⟨reached, out⟩ | same
      · refine absurd ?_ ended
        rw [watch, out]
        exact BreakOff.reason?_watched reached _
      · rw [watch, watch, same]

/-- A run that comes to an end by itself does so before listeners. -/
theorem ended_watch {fuel : Nat} (ended : (program.run fuel world registry).stop ≠ some .outOfFuel) :
    (program.watch fuel world registry listeners workspace).reason? ≠ some (.problem .outOfFuel) := by
  rcases program.watch_cases fuel world registry listeners workspace with ⟨same, unfailing⟩ |
    ⟨number, failure, _, broken⟩
  · rw [Watched.reason?, unfailing, same]
    intro out
    obtain ⟨problem, stopped, out⟩ := Option.map_eq_some_iff.mp out
    cases out
    exact ended stopped
  · rw [broken]
    exact fun out => BreakOff.ofFailure_ne_outOfFuel number failure (Option.some.inj out)

/-- A run before listeners that has come to its end is reported or escapes, unless a failure breaks it off. -/
theorem watched_cases {fuel : Nat} (ended : (program.run fuel world {}).stop ≠ some .outOfFuel) :
    ((program.watch fuel world {} listeners workspace).failure = none ∧
      ((∃ report, Report.ofExecution (program.watch fuel world {} listeners workspace).execution = .ok report) ∨
        ∃ failure, program.Escapes (program.watch fuel world {} listeners workspace).execution failure ∧
          Report.ofExecution (program.watch fuel world {} listeners workspace).execution = .error failure)) ∨
    ∃ failure, (program.watch fuel world {} listeners workspace).failure = some failure ∧
      program.IsBrokenOff world {} listeners workspace failure := by
  have cases := program.watch_cases fuel world {} listeners workspace
  generalize program.watch fuel world {} listeners workspace = watched at cases
  rcases cases with ⟨same, unfailing⟩ | ⟨number, failure, broken, reason⟩
  · rw [same]
    rcases reported_or_escapes ended with ⟨fault, reported, _⟩ | escapes
    · exact Or.inl ⟨unfailing, Or.inl ⟨_, reported⟩⟩
    · exact Or.inl ⟨unfailing, Or.inr escapes⟩
  · rcases reported_of_reason reason with ⟨unfailing, reported⟩ | failed
    · exact Or.inl ⟨unfailing, Or.inl reported⟩
    · exact Or.inr ⟨failure, failed, broken⟩

end

/-- Only loops with a condition can run forever. Whatever its lines are, a program without such a loop ends in every
world: with enough fuel its run is always the same, and it is reported, unless it meets a counted loop whose count has
too many digits, or misses a beeper at a position that is too long to be written. Before listeners it is the same,
unless one of them breaks it off with a failure. Counted loops may repeat as often as they like, and instructions may
call each other in a ring: calls that nest too deeply are reported as such. This does not hang on the bound of the
nesting: under every bound a section of the program ends, whatever the instructions are, and unless it is the bound
that ends it, it ends in the same way under every higher bound. -/
theorem only_loops_run_forever (lines : List String) (loopless : (classify lines).Loopless) :
    (∀ world, ∃ execution enough,
      (∀ fuel, enough ≤ fuel → (classify lines).run fuel world {} = execution) ∧
      execution.stop ≠ some .outOfFuel ∧
      ((∃ report, Report.ofExecution execution = .ok report) ∨
        ∃ failure, (classify lines).Escapes execution failure ∧ Report.ofExecution execution = .error failure) ∧
      (execution.stop = some .nestingTooDeep → ∃ fault,
        Report.ofExecution execution = .ok (.ofWorld execution.world (some fault)) ∧
        fault.kind = .semantic ∧ fault.line = none ∧ fault.message = "instruction calls nest too deeply")) ∧
    (∀ (α : Type) [Listener α] (world : World) (listeners : List α) (workspace : Workspace), ∃ watched enough,
      (∀ fuel, enough ≤ fuel → (classify lines).watch fuel world {} listeners workspace = watched) ∧
      watched.reason? ≠ some (.problem .outOfFuel) ∧
      (watched.failure = none ∧ ((∃ report, Report.ofExecution watched.execution = .ok report) ∨
          ∃ failure, (classify lines).Escapes watched.execution failure ∧
            Report.ofExecution watched.execution = .error failure) ∨
        ∃ failure, watched.failure = some failure ∧
          (classify lines).IsBrokenOff world {} listeners workspace failure)) ∧
    ∀ (registry : Registry) (start stop : Nat) (depth : Int) (left : Nat) (progress : Progress),
      ∃ outcome, outcome.Ended ∧
        (classify lines).Settles registry left ((classify lines).sectionAt start stop depth) progress outcome ∧
        ∀ more, left ≤ more → (∃ reached, outcome = .stopped .nestingTooDeep reached) ∨
          (classify lines).Settles registry more ((classify lines).sectionAt start stop depth) progress outcome := by
  refine ⟨fun world => ?_, fun α _ world listeners workspace => ?_, loopless.settles⟩
  · obtain ⟨execution, enough, settled, ended⟩ := loopless.run_eq world {}
    refine ⟨execution, enough, settled, ended, ?_, ?_⟩
    · rw [← settled enough (Nat.le_refl _)] at ended ⊢
      rcases reported_or_escapes ended with ⟨fault, reported, _⟩ | escapes
      · exact Or.inl ⟨_, reported⟩
      · exact Or.inr escapes
    · intro tooDeep
      refine ⟨⟨.nestingTooDeep, none⟩, ?_, rfl, rfl, rfl⟩
      rw [Report.ofExecution, tooDeep]
  · obtain ⟨execution, enough, settled, ended⟩ := loopless.run_eq world {}
    rw [← settled enough (Nat.le_refl _)] at ended
    have watched := @ended_watch α _ _ _ _ listeners workspace _ ended
    exact ⟨_, enough, fun fuel fed => watch_of_enough watched fed, watched, watched_cases ended⟩

/-- A program with two instructions that call each other. -/
def pingPong : List String :=
  ["BEGINNING-OF-PROGRAM", "\tDEFINE-NEW-INSTRUCTION ping AS", "\tBEGIN", "\t\tpong", "\tEND",
    "\tDEFINE-NEW-INSTRUCTION pong AS", "\tBEGIN", "\t\tITERATE 3 TIMES", "\t\tBEGIN", "\t\t\tping", "\t\tEND",
    "\tEND", "\tBEGINNING-OF-EXECUTION", "\t\tturnleft;", "\t\tping;", "\t\tturnoff", "\tEND-OF-EXECUTION",
    "END-OF-PROGRAM"]

theorem loopless_pingPong : (classify pingPong).Loopless := by decide +kernel

theorem only_loops_run_forever_pingPong :
    (classify pingPong).Loopless ∧ ∃ enough, ∀ fuel, enough ≤ fuel → ∃ fault,
      Report.ofExecution ((classify pingPong).run fuel .corridor {}) =
        .ok (.ofWorld { World.corridor with robot.facing := .north, steps := 1 } (some fault)) ∧
      fault.message = "instruction calls nest too deeply" := by
  obtain ⟨execution, enough, settled, ended, _, nested⟩ :=
    (only_loops_run_forever pingPong loopless_pingPong).1 .corridor
  obtain ⟨stopped, turned⟩ : ((classify pingPong).run 300 .corridor {}).stop = some .nestingTooDeep ∧
      ((classify pingPong).run 300 .corridor {}).world =
        { World.corridor with robot.facing := .north, steps := 1 } := by decide +kernel
  have same : (classify pingPong).run 300 .corridor {} = execution := by
    have settled' := settled enough (Nat.le_refl _)
    rw [← settled'] at ended ⊢
    exact run_eq_of_ended (by rw [stopped]; nofun) ended
  rw [same] at stopped turned
  obtain ⟨fault, reported, _, _, message⟩ := nested stopped
  rw [turned] at reported
  refine ⟨loopless_pingPong, enough, fun fuel fed => ⟨fault, ?_, message⟩⟩
  rw [settled fuel fed, reported]

/-- Before a recorder that cannot write the bag, the ping-pong is not reported. -/
theorem recorder_ends_pingPong :
    (classify pingPong).Loopless ∧ ∃ enough, ∀ fuel, enough ≤ fuel →
      ((classify pingPong).watch fuel overdrawnCorridor {} [eagerRecorder] { files := {}, directory := [] }).failure =
        some (.overflow .traceCell) := by
  have stopped : ((classify pingPong).watch 20 overdrawnCorridor {} [eagerRecorder]
      { files := {}, directory := [] }).failure = some (.overflow .traceCell) := by decide +kernel
  refine ⟨loopless_pingPong, 20, fun fuel fed => ?_⟩
  rw [watch_of_enough (by rw [Watched.reason?, stopped]; decide) fed, stopped]

end Program

end GridRobot
