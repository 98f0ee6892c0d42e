import GridRobot.Proofs.Skipping

namespace GridRobot

/-- A run has ended unless it is out of fuel. -/
def Outcome.Ended : Outcome → Prop
  | .finished _ _ => True
  | .stopped problem _ => problem ≠ .outOfFuel

namespace Program

/-- What running a block can do, one rule for each way through a step. A run may be out of fuel at any
step; `left` is the nesting that may still be used. -/
inductive Runs (program : Program) (registry : Registry) :
    (left : Nat) → (block : Block) → (progress : Progress) → (outcome : Outcome) → Prop where
  | outOfFuel {left : Nat} {block : Block} {progress : Progress} :
      Runs program registry left block progress (.stopped .outOfFuel progress)
  | done {left number : Nat} {progress : Progress} :
      Runs program registry left (.done number) progress (.finished number progress)
  | broken {left : Nat} {problem : Stop} {progress : Progress} :
      Runs program registry left (.broken problem) progress (.stopped problem progress)
  | action {left number : Nat} {name : String} {rest : Block} {progress : Progress} {action : Action}
      {world : World} {outcome : Outcome} (known : Action.ofName? name = some action)
      (performed : progress.world.perform action = .ok world)
      (after : Runs program registry left rest ⟨world, action :: progress.actions⟩ outcome) :
      Runs program registry left (.statement number name rest) progress outcome
  | actionFails {left number : Nat} {name : String} {rest : Block} {progress : Progress}
      {action : Action} {hindrance : Hindrance} (known : Action.ofName? name = some action)
      (failed : progress.world.perform action = .error hindrance) :
      Runs program registry left (.statement number name rest) progress (.stopped (hindrance.stop number) progress)
  | unknownStatement {left number : Nat} {name : String} {rest : Block} {progress : Progress}
      (other : Action.ofName? name = none) (missing : registry.find? name = none) :
      Runs program registry left (.statement number name rest) progress
        (.stopped (.fault (.onLine (.unknownStatement name) number)) progress)
  | selfCall {left number guilty : Nat} {name : String} {rest : Block} {progress : Progress} {span : Span}
      (other : Action.ofName? name = none) (found : registry.find? name = some span)
      (calls : program.selfCall? name span = some guilty) :
      Runs program registry left (.statement number name rest) progress
        (.stopped (.fault (.onLine (.selfCall name) guilty)) progress)
  | callTooDeep {left number : Nat} {name : String} {rest : Block} {progress : Progress} {span : Span}
      (other : Action.ofName? name = none) (found : registry.find? name = some span)
      (sober : program.selfCall? name span = none)
      (refused : Nesting.enter? Nesting.callCost left = none) :
      Runs program registry left (.statement number name rest) progress (.stopped .nestingTooDeep progress)
  | callStops {left inner number : Nat} {name : String} {rest : Block} {progress reached : Progress}
      {span : Span} {problem : Stop} (other : Action.ofName? name = none)
      (found : registry.find? name = some span) (sober : program.selfCall? name span = none)
      (entered : Nesting.enter? Nesting.callCost left = some inner)
      (body : Runs program registry inner (program.sectionAt span.start span.stop instructionDepth) progress
        (.stopped problem reached)) :
      Runs program registry left (.statement number name rest) progress (.stopped problem reached)
  | call {left inner number last : Nat} {name : String} {rest : Block} {progress reached : Progress}
      {span : Span} {outcome : Outcome} (other : Action.ofName? name = none)
      (found : registry.find? name = some span) (sober : program.selfCall? name span = none)
      (entered : Nesting.enter? Nesting.callCost left = some inner)
      (body : Runs program registry inner (program.sectionAt span.start span.stop instructionDepth) progress
        (.finished last reached))
      (after : Runs program registry left rest reached outcome) :
      Runs program registry left (.statement number name rest) progress outcome
  | branchUnknown {left number : Nat} {condition : String} {body alternative rest : Block}
      {progress : Progress} (unknown : progress.world.ask? condition = none) :
      Runs program registry left (.branch number condition body alternative rest) progress
        (.stopped (.fault (.onLine (.unknownCondition condition) number)) progress)
  | branchTooDeep {left number : Nat} {condition : String} {body alternative rest : Block}
      {progress : Progress} {answer : Bool} (known : progress.world.ask? condition = some answer)
      (refused : Nesting.enter? Nesting.blockCost left = none) :
      Runs program registry left (.branch number condition body alternative rest) progress
        (.stopped .nestingTooDeep progress)
  | takenStops {left inner number : Nat} {condition : String} {body alternative rest : Block}
      {progress reached : Progress} {problem : Stop} (holds : progress.world.ask? condition = some true)
      (entered : Nesting.enter? Nesting.blockCost left = some inner)
      (inside : Runs program registry inner body progress (.stopped problem reached)) :
      Runs program registry left (.branch number condition body alternative rest) progress
        (.stopped problem reached)
  | takenUnread {left inner number last : Nat} {condition : String} {body alternative rest : Block}
      {progress reached : Progress} {problem : Stop} (holds : progress.world.ask? condition = some true)
      (entered : Nesting.enter? Nesting.blockCost left = some inner)
      (inside : Runs program registry inner body progress (.finished last reached))
      (unread : alternative.skip inner = .error problem) :
      Runs program registry left (.branch number condition body alternative rest) progress
        (.stopped problem reached)
  | taken {left inner number last last' : Nat} {condition : String} {body alternative rest : Block}
      {progress reached : Progress} {outcome : Outcome} (holds : progress.world.ask? condition = some true)
      (entered : Nesting.enter? Nesting.blockCost left = some inner)
      (inside : Runs program registry inner body progress (.finished last reached))
      (skipped : alternative.skip inner = .ok last')
      (after : Runs program registry left rest reached outcome) :
      Runs program registry left (.branch number condition body alternative rest) progress outcome
  | otherUnread {left inner number : Nat} {condition : String} {body alternative rest : Block}
      {progress : Progress} {problem : Stop} (fails : progress.world.ask? condition = some false)
      (entered : Nesting.enter? Nesting.blockCost left = some inner)
      (unread : body.skip inner = .error problem) :
      Runs program registry left (.branch number condition body alternative rest) progress
        (.stopped problem progress)
  | otherStops {left inner number last : Nat} {condition : String} {body alternative rest : Block}
      {progress reached : Progress} {problem : Stop} (fails : progress.world.ask? condition = some false)
      (entered : Nesting.enter? Nesting.blockCost left = some inner)
      (skipped : body.skip inner = .ok last)
      (inside : Runs program registry inner alternative progress (.stopped problem reached)) :
      Runs program registry left (.branch number condition body alternative rest) progress
        (.stopped problem reached)
  | other {left inner number last last' : Nat} {condition : String} {body alternative rest : Block}
      {progress reached : Progress} {outcome : Outcome} (fails : progress.world.ask? condition = some false)
      (entered : Nesting.enter? Nesting.blockCost left = some inner)
      (skipped : body.skip inner = .ok last)
      (inside : Runs program registry inner alternative progress (.finished last' reached))
      (after : Runs program registry left rest reached outcome) :
      Runs program registry left (.branch number condition body alternative rest) progress outcome
  | loopUnknown {left number : Nat} {condition : String} {body rest : Block} {progress : Progress}
      (unknown : progress.world.ask? condition = none) :
      Runs program registry left (.loop number condition body rest) progress
        (.stopped (.fault (.onLine (.unknownCondition condition) number)) progress)
  | loopTooDeep {left number : Nat} {condition : String} {body rest : Block} {progress : Progress}
      {answer : Bool} (known : progress.world.ask? condition = some answer)
      (refused : Nesting.enter? Nesting.blockCost left = none) :
      Runs program registry left (.loop number condition body rest) progress
        (.stopped .nestingTooDeep progress)
  | loopStops {left inner number : Nat} {condition : String} {body rest : Block}
      {progress reached : Progress} {problem : Stop} (holds : progress.world.ask? condition = some true)
      (entered : Nesting.enter? Nesting.blockCost left = some inner)
      (inside : Runs program registry inner body progress (.stopped problem reached)) :
      Runs program registry left (.loop number condition body rest) progress (.stopped problem reached)
  | loopAgain {left inner number last : Nat} {condition : String} {body rest : Block}
      {progress reached : Progress} {outcome : Outcome} (holds : progress.world.ask? condition = some true)
      (entered : Nesting.enter? Nesting.blockCost left = some inner)
      (inside : Runs program registry inner body progress (.finished last reached))
      (after : Runs program registry left (.loop number condition body rest) reached outcome) :
      Runs program registry left (.loop number condition body rest) progress outcome
  | loopUnread {left inner number : Nat} {condition : String} {body rest : Block} {progress : Progress}
      {problem : Stop} (fails : progress.world.ask? condition = some false)
      (entered : Nesting.enter? Nesting.blockCost left = some inner)
      (unread : body.skip inner = .error problem) :
      Runs program registry left (.loop number condition body rest) progress (.stopped problem progress)
  | loopEnds {left inner number last : Nat} {condition : String} {body rest : Block} {progress : Progress}
      {outcome : Outcome} (fails : progress.world.ask? condition = some false)
      (entered : Nesting.enter? Nesting.blockCost left = some inner)
      (skipped : body.skip inner = .ok last) (after : Runs program registry left rest progress outcome) :
      Runs program registry left (.loop number condition body rest) progress outcome
  | iterateTooDeep {left number count : Nat} {body rest : Block} {progress : Progress}
      (refused : Nesting.enter? Nesting.blockCost left = none) :
      Runs program registry left (.iterate number count body rest) progress
        (.stopped .nestingTooDeep progress)
  | iterateStops {left inner number more : Nat} {body rest : Block} {progress reached : Progress}
      {problem : Stop} (entered : Nesting.enter? Nesting.blockCost left = some inner)
      (inside : Runs program registry inner body progress (.stopped problem reached)) :
      Runs program registry left (.iterate number (more + 1) body rest) progress (.stopped problem reached)
  | iterateAgain {left inner number more last : Nat} {body rest : Block} {progress reached : Progress}
      {outcome : Outcome} (entered : Nesting.enter? Nesting.blockCost left = some inner)
      (inside : Runs program registry inner body progress (.finished last reached))
      (after : Runs program registry left (.iterate number more body rest) reached outcome) :
      Runs program registry left (.iterate number (more + 1) body rest) progress outcome
  | iterateUnread {left inner number : Nat} {body rest : Block} {progress : Progress} {problem : Stop}
      (entered : Nesting.enter? Nesting.blockCost left = some inner)
      (unread : body.skip inner = .error problem) :
      Runs program registry left (.iterate number 0 body rest) progress (.stopped problem progress)
  | iterateEnds {left inner number last : Nat} {body rest : Block} {progress : Progress} {outcome : Outcome}
      (entered : Nesting.enter? Nesting.blockCost left = some inner)
      (skipped : body.skip inner = .ok last) (after : Runs program registry left rest progress outcome) :
      Runs program registry left (.iterate number 0 body rest) progress outcome

/-- A block that runs to its end can be skipped, and ends on the same line. -/
theorem Runs.skip_eq {program : Program} {registry : Registry} {left last : Nat} {block : Block}
    {progress reached : Progress}
    (runs : program.Runs registry left block progress (.finished last reached)) : block.skip left = .ok last := by
  generalize finished : Outcome.finished last reached = outcome at runs
  induction runs generalizing last reached with
  | done =>
      cases finished
      rfl
  | action known performed after afterHypothesis => exact afterHypothesis finished
  | call other found sober entered body after bodyHypothesis afterHypothesis =>
      exact afterHypothesis finished
  | taken holds entered inside skipped after insideHypothesis afterHypothesis =>
      exact Block.skip_branch_eq_ok.mpr ⟨_, Nesting.enter?_eq_some.mp entered, ⟨_, insideHypothesis rfl⟩,
        ⟨_, skipped⟩, afterHypothesis finished⟩
  | other fails entered skipped inside after insideHypothesis afterHypothesis =>
      exact Block.skip_branch_eq_ok.mpr ⟨_, Nesting.enter?_eq_some.mp entered, ⟨_, skipped⟩,
        ⟨_, insideHypothesis rfl⟩, afterHypothesis finished⟩
  | loopAgain holds entered inside after insideHypothesis afterHypothesis => exact afterHypothesis finished
  | loopEnds fails entered skipped after afterHypothesis =>
      exact Block.skip_loop_eq_ok.mpr
        ⟨_, Nesting.enter?_eq_some.mp entered, ⟨_, skipped⟩, afterHypothesis finished⟩
  | iterateAgain entered inside after insideHypothesis afterHypothesis => exact afterHypothesis finished
  | iterateEnds entered skipped after afterHypothesis =>
      rw [Block.skip_iterate _ _ _ ""]
      exact Block.skip_loop_eq_ok.mpr
        ⟨_, Nesting.enter?_eq_some.mp entered, ⟨_, skipped⟩, afterHypothesis finished⟩
  | _ => cases finished

/-- Every execution is a run. -/
theorem runs_execute (program : Program) (registry : Registry) (fuel left : Nat) (block : Block)
    (progress : Progress) :
    program.Runs registry left block progress (program.execute registry fuel left block progress) := by
  fun_induction execute program registry fuel left block progress with
  | case1 => exact .outOfFuel
  | case2 => exact .done
  | case3 => exact .broken
  | case4 fuel left number name rest progress action known error failed => exact .actionFails known failed
  | case5 fuel left number name rest progress action known world performed after =>
      exact .action known performed after
  | case6 fuel left number name rest progress other missing => exact .unknownStatement other missing
  | case7 fuel left number name rest progress other span found guilty calls =>
      exact .selfCall other found calls
  | case8 fuel left number name rest progress other span found sober refused =>
      exact .callTooDeep other found sober refused
  | case9 fuel left number name rest progress other span found sober inner entered called problem reached
      ran body =>
      rw [ran] at body
      exact .callStops other found sober entered body
  | case10 fuel left number name rest progress other span found sober inner entered called last reached
      ran body after =>
      rw [ran] at body
      exact .call other found sober entered body after
  | case11 fuel left number condition body alternative rest progress unknown => exact .branchUnknown unknown
  | case12 fuel left number condition body alternative rest progress answer refused known =>
      exact .branchTooDeep known refused
  | case13 fuel left number condition body alternative rest progress inner entered holds problem reached
      ran inside =>
      rw [ran] at inside
      exact .takenStops holds entered inside
  | case14 fuel left number condition body alternative rest progress inner entered holds last reached ran
      problem unread inside =>
      rw [ran] at inside
      exact .takenUnread holds entered inside unread
  | case15 fuel left number condition body alternative rest progress inner entered holds last reached ran
      last' skipped inside after =>
      rw [ran] at inside
      exact .taken holds entered inside skipped after
  | case16 fuel left number condition body alternative rest progress inner entered fails problem unread =>
      exact .otherUnread fails entered unread
  | case17 fuel left number condition body alternative rest progress inner entered fails last skipped
      problem reached ran inside =>
      rw [ran] at inside
      exact .otherStops fails entered skipped inside
  | case18 fuel left number condition body alternative rest progress inner entered fails last skipped
      last' reached ran inside after =>
      rw [ran] at inside
      exact .other fails entered skipped inside after
  | case19 fuel left number condition body rest progress unknown => exact .loopUnknown unknown
  | case20 fuel left number condition body rest progress answer refused known =>
      exact .loopTooDeep known refused
  | case21 fuel left number condition body rest progress inner entered holds problem reached ran inside =>
      rw [ran] at inside
      exact .loopStops holds entered inside
  | case22 fuel left number condition body rest progress inner entered holds last reached ran unknown inside =>
      rw [ran] at inside
      exact .loopAgain holds entered inside (.loopUnknown unknown)
  | case23 fuel left number condition body rest progress inner entered holds last reached ran again inside after =>
      rw [ran] at inside
      exact .loopAgain holds entered inside after
  | case24 fuel left number condition body rest progress inner entered holds last reached ran fails inside after =>
      rw [ran] at inside
      exact .loopAgain holds entered inside (.loopEnds fails entered inside.skip_eq after)
  | case25 fuel left number condition body rest progress inner entered fails problem unread =>
      exact .loopUnread fails entered unread
  | case26 fuel left number condition body rest progress inner entered fails last skipped after =>
      exact .loopEnds fails entered skipped after
  | case27 fuel left number count body rest progress refused => exact .iterateTooDeep refused
  | case28 fuel left number body rest progress inner entered problem unread =>
      exact .iterateUnread entered unread
  | case29 fuel left number body rest progress inner entered last skipped after =>
      exact .iterateEnds entered skipped after
  | case30 fuel left number body rest progress more inner entered problem reached ran inside =>
      rw [ran] at inside
      exact .iterateStops entered inside
  | case31 fuel left number body rest progress inner entered last reached ran inside after =>
      rw [ran] at inside
      exact .iterateAgain entered inside (.iterateEnds entered inside.skip_eq after)
  | case32 fuel left number body rest progress inner entered last reached ran more inside after =>
      rw [ran] at inside
      exact .iterateAgain entered inside after

/-- With enough fuel the execution has this outcome, whatever fuel is left over. -/
def Settles (program : Program) (registry : Registry) (left : Nat) (block : Block) (progress : Progress)
    (outcome : Outcome) : Prop :=
  ∃ enough, ∀ fuel, program.execute registry (enough + fuel) left block progress = outcome

section
variable {program : Program} {registry : Registry} {left left' left'' : Nat}
  {block block' block'' : Block} {progress progress' progress'' : Progress}
  {outcome outcome' outcome'' : Outcome}

theorem Settles.of_step
    (step : ∀ fuel, program.execute registry (fuel + 1) left block progress = outcome) :
    program.Settles registry left block progress outcome := by
  refine ⟨1, fun fuel => ?_⟩
  rw [Nat.add_comm]
  exact step fuel

theorem Settles.after_one (first : program.Settles registry left block progress outcome)
    (step : ∀ fuel, program.execute registry fuel left block progress = outcome →
      program.execute registry (fuel + 1) left' block' progress' = outcome') :
    program.Settles registry left' block' progress' outcome' := by
  obtain ⟨enough, ran⟩ := first
  refine ⟨enough + 1, fun fuel => ?_⟩
  rw [Nat.add_right_comm]
  exact step _ (ran fuel)

/-- What settles the second time does so with the fuel that is left and with one unit more. -/
theorem Settles.after_pass (first : program.Settles registry left block progress outcome)
    (second : program.Settles registry left' block' progress' outcome')
    (step : ∀ fuel, program.execute registry fuel left block progress = outcome →
      program.execute registry fuel left' block' progress' = outcome' →
      program.execute registry (fuel + 1) left' block' progress' = outcome' →
      program.execute registry (fuel + 1) left'' block'' progress'' = outcome'') :
    program.Settles registry left'' block'' progress'' outcome'' := by
  obtain ⟨enough, ran⟩ := first
  obtain ⟨enough', ran'⟩ := second
  refine ⟨enough + enough' + 1, fun fuel => ?_⟩
  rw [Nat.add_right_comm]
  apply step
  · rw [Nat.add_assoc]
    exact ran _
  · rw [Nat.add_comm enough, Nat.add_assoc]
    exact ran' _
  · rw [Nat.add_comm enough, Nat.add_assoc, Nat.add_assoc]
    exact ran' _

theorem Settles.after_two (first : program.Settles registry left block progress outcome)
    (second : program.Settles registry left' block' progress' outcome')
    (step : ∀ fuel, program.execute registry fuel left block progress = outcome →
      program.execute registry fuel left' block' progress' = outcome' →
      program.execute registry (fuel + 1) left'' block'' progress'' = outcome'') :
    program.Settles registry left'' block'' progress'' outcome'' :=
  first.after_pass second fun fuel ran ran' _ => step fuel ran ran'

/-- A loop that has made a pass goes on as it would from there, but need not read its body again to end. -/
theorem execute_loop_of_pass {fuel inner number last : Nat} {condition : String} {body rest : Block}
    {reached : Progress} (holds : progress.world.ask? condition = some true)
    (entered : Nesting.enter? Nesting.blockCost left = some inner)
    (ran : program.execute registry fuel inner body progress = .finished last reached) :
    program.execute registry (fuel + 1) left (.loop number condition body rest) progress =
      if reached.world.ask? condition = some true then
        program.execute registry fuel left (.loop number condition body rest) reached
      else program.execute registry (fuel + 1) left (.loop number condition body rest) reached := by
  have runs := program.runs_execute registry fuel inner body progress
  rw [ran] at runs
  cases asked : reached.world.ask? condition with
  | none => simp [execute, holds, entered, ran, asked]
  | some answer => cases answer <;> simp [execute, holds, entered, ran, asked, runs.skip_eq]

theorem execute_iterate_of_pass {fuel inner number more last : Nat} {body rest : Block} {reached : Progress}
    (entered : Nesting.enter? Nesting.blockCost left = some inner)
    (ran : program.execute registry fuel inner body progress = .finished last reached) :
    program.execute registry (fuel + 1) left (.iterate number (more + 1) body rest) progress =
      if more = 0 then program.execute registry (fuel + 1) left (.iterate number more body rest) reached
      else program.execute registry fuel left (.iterate number more body rest) reached := by
  have runs := program.runs_execute registry fuel inner body progress
  rw [ran] at runs
  cases more with
  | zero => simp [execute, entered, ran, runs.skip_eq]
  | succ more => simp [execute, entered, ran]

/-- A run that ends is an execution with enough fuel. -/
theorem Runs.settles (runs : program.Runs registry left block progress outcome) (ended : outcome.Ended) :
    program.Settles registry left block progress outcome := by
  induction runs with
  | outOfFuel => exact absurd rfl ended
  | done => exact .of_step fun fuel => rfl
  | broken => exact .of_step fun fuel => rfl
  | action known performed after afterHypothesis =>
      exact .after_one (afterHypothesis ended) fun fuel ran => by simp only [execute, known, performed, ran]
  | actionFails known failed => exact .of_step fun fuel => by simp only [execute, known, failed]
  | unknownStatement other missing => exact .of_step fun fuel => by simp only [execute, other, missing]
  | selfCall other found calls => exact .of_step fun fuel => by simp only [execute, other, found, calls]
  | callTooDeep other found sober refused =>
      exact .of_step fun fuel => by simp only [execute, other, found, sober, refused]
  | callStops other found sober entered body bodyHypothesis =>
      exact .after_one (bodyHypothesis ended) fun fuel ran => by
        simp only [execute, other, found, sober, entered, ran]
  | call other found sober entered body after bodyHypothesis afterHypothesis =>
      exact .after_two (bodyHypothesis trivial) (afterHypothesis ended) fun fuel ran ran' => by
        simp only [execute, other, found, sober, entered, ran, ran']
  | branchUnknown unknown => exact .of_step fun fuel => by simp only [execute, unknown]
  | branchTooDeep known refused => exact .of_step fun fuel => by simp only [execute, known, refused]
  | takenStops holds entered inside insideHypothesis =>
      exact .after_one (insideHypothesis ended) fun fuel ran => by simp only [execute, holds, entered, ran]
  | takenUnread holds entered inside unread insideHypothesis =>
      exact .after_one (insideHypothesis trivial) fun fuel ran => by
        simp only [execute, holds, entered, ran, unread]
  | taken holds entered inside skipped after insideHypothesis afterHypothesis =>
      exact .after_two (insideHypothesis trivial) (afterHypothesis ended) fun fuel ran ran' => by
        simp only [execute, holds, entered, ran, skipped, ran']
  | otherUnread fails entered unread =>
      exact .of_step fun fuel => by simp only [execute, fails, entered, unread]
  | otherStops fails entered skipped inside insideHypothesis =>
      exact .after_one (insideHypothesis ended) fun fuel ran => by
        simp only [execute, fails, entered, skipped, ran]
  | other fails entered skipped inside after insideHypothesis afterHypothesis =>
      exact .after_two (insideHypothesis trivial) (afterHypothesis ended) fun fuel ran ran' => by
        simp only [execute, fails, entered, skipped, ran, ran']
  | loopUnknown unknown => exact .of_step fun fuel => by simp only [execute, unknown]
  | loopTooDeep known refused => exact .of_step fun fuel => by simp only [execute, known, refused]
  | loopStops holds entered inside insideHypothesis =>
      exact .after_one (insideHypothesis ended) fun fuel ran => by simp only [execute, holds, entered, ran]
  | loopAgain holds entered inside after insideHypothesis afterHypothesis =>
      exact .after_pass (insideHypothesis trivial) (afterHypothesis ended) fun fuel ran again ended => by
        rw [execute_loop_of_pass holds entered ran, again, ended, ite_self]
  | loopUnread fails entered unread =>
      exact .of_step fun fuel => by simp only [execute, fails, entered, unread]
  | loopEnds fails entered skipped after afterHypothesis =>
      exact .after_one (afterHypothesis ended) fun fuel ran => by
        simp only [execute, fails, entered, skipped, ran]
  | iterateTooDeep refused => exact .of_step fun fuel => by simp only [execute, refused]
  | iterateStops entered inside insideHypothesis =>
      exact .after_one (insideHypothesis ended) fun fuel ran => by simp only [execute, entered, ran]
  | iterateAgain entered inside after insideHypothesis afterHypothesis =>
      exact .after_pass (insideHypothesis trivial) (afterHypothesis ended) fun fuel ran again ended => by
        rw [execute_iterate_of_pass entered ran, again, ended, ite_self]
  | iterateUnread entered unread => exact .of_step fun fuel => by simp only [execute, entered, unread]
  | iterateEnds entered skipped after afterHypothesis =>
      exact .after_one (afterHypothesis ended) fun fuel ran => by simp only [execute, entered, skipped, ran]

end

end Program

end GridRobot
