import GridRobot.Proofs.Staging

namespace GridRobot

/-- Where a walk ends or why it does not, whatever it has done on the way. -/
def Outcome.verdict : Outcome → Except Stop Nat
  | .finished number _ => .ok number
  | .stopped problem _ => .error problem

/-- The outcome of a walk that does nothing. -/
def Outcome.ofVerdict : Except Stop Nat → Progress → Outcome
  | .ok number, progress => .finished number progress
  | .error problem, progress => .stopped problem progress

namespace Program

/-- A live step takes fuel, and any other step goes on to a smaller block. -/
theorem walk_decreases {live : Bool} {fuel size smaller : Nat} (fed : ¬ (live = true ∧ fuel = 0))
    (progress : live = true ∨ smaller < size) :
    Prod.Lex (· < ·) (· < ·) (fuel - live.toNat, smaller) (fuel, size) := by
  cases live with
  | true =>
      apply Prod.Lex.left
      simp only [Bool.toNat_true, true_and] at fed ⊢
      omega
  | false => exact Prod.Lex.right fuel (progress.resolve_left Bool.false_ne_true)

/-- Walks over a block with a flag that says whether it is live, and that every step hands on to the blocks in
it and behind it. World and registry are at hand in either mode: only the flag keeps a step from them. -/
def walk (program : Program) (registry : Registry) (fuel : Nat) (live : Bool) (left : Nat) (block : Block)
    (progress : Progress) : Outcome :=
  if _ : live = true ∧ fuel = 0 then .stopped .outOfFuel progress
  else
    match block with
    | .done number => .finished number progress
    | .broken problem => .stopped problem progress
    | .statement number name rest =>
      if _ : live = true then
        match Action.ofName? name, registry.find? name with
        | some action, _ =>
          match progress.world.perform action with
          | .error hindrance => .stopped (hindrance.stop number) progress
          | .ok world =>
            walk program registry (fuel - live.toNat) live left rest ⟨world, action :: progress.actions⟩
        | none, none => .stopped (.fault (.onLine (.unknownStatement name) number)) progress
        | none, some span =>
          match program.selfCall? name span, Nesting.enter? Nesting.callCost left with
          | some guilty, _ => .stopped (.fault (.onLine (.selfCall name) guilty)) progress
          | none, none => .stopped .nestingTooDeep progress
          | none, some inner =>
            match walk program registry (fuel - live.toNat) live inner
                (program.sectionAt span.start span.stop instructionDepth) progress with
            | .stopped problem reached => .stopped problem reached
            | .finished _ reached => walk program registry (fuel - live.toNat) live left rest reached
      else walk program registry (fuel - live.toNat) live left rest progress
    | .branch number condition body alternative rest =>
      match if live then progress.world.ask? condition else some false,
          Nesting.enter? Nesting.blockCost left with
      | none, _ => .stopped (.fault (.onLine (.unknownCondition condition) number)) progress
      | some _, none => .stopped .nestingTooDeep progress
      | some taken, some inner =>
        match walk program registry (fuel - live.toNat) (live && taken) inner body progress with
        | .stopped problem reached => .stopped problem reached
        | .finished _ reached =>
          match walk program registry (fuel - live.toNat) (live && !taken) inner alternative reached with
          | .stopped problem reached => .stopped problem reached
          | .finished _ reached => walk program registry (fuel - live.toNat) live left rest reached
    | .loop number condition body rest =>
      match if live then progress.world.ask? condition else some false,
          Nesting.enter? Nesting.blockCost left with
      | none, _ => .stopped (.fault (.onLine (.unknownCondition condition) number)) progress
      | some _, none => .stopped .nestingTooDeep progress
      | some holds, some inner =>
        match walk program registry (fuel - live.toNat) (live && holds) inner body progress with
        | .stopped problem reached => .stopped problem reached
        | .finished _ reached =>
          match if live && holds then reached.world.ask? condition else some false with
          | none => .stopped (.fault (.onLine (.unknownCondition condition) number)) reached
          | some again =>
            if _ : (live && again) = true then
              walk program registry (fuel - live.toNat) live left (.loop number condition body rest) reached
            else walk program registry (fuel - live.toNat) live left rest reached
    | .iterate number count body rest =>
      match Nesting.enter? Nesting.blockCost left with
      | none => .stopped .nestingTooDeep progress
      | some inner =>
        match walk program registry (fuel - live.toNat) (live && 0 < count) inner body progress with
        | .stopped problem reached => .stopped problem reached
        | .finished _ reached =>
          if _ : (live && 1 < count) = true then
            walk program registry (fuel - live.toNat) live left (.iterate number (count - 1) body rest) reached
          else walk program registry (fuel - live.toNat) live left rest reached
termination_by (fuel, sizeOf block)
decreasing_by
  all_goals apply walk_decreases ‹_›
  all_goals simp_all
  all_goals omega

section
variable (program : Program) (registry : Registry) (fuel left : Nat) (block : Block) (progress : Progress)

/-- A walk that is not live hands that on to everything inside the block, so it only reads. -/
theorem walk_false :
    program.walk registry fuel false left block progress = .ofVerdict (block.skip left) progress := by
  induction block generalizing left with
  | done number => simp [walk, Block.skip, Outcome.ofVerdict]
  | broken problem => simp [walk, Block.skip, Outcome.ofVerdict]
  | statement number name rest inductionHypothesis => simp [walk, Block.skip, inductionHypothesis]
  | branch number condition body alternative rest bodyHypothesis alternativeHypothesis restHypothesis =>
      rw [walk, Block.skip]
      cases Nesting.enter? Nesting.blockCost left with
      | none => simp [Outcome.ofVerdict]
      | some inner =>
          cases bodyRead : body.skip inner with
          | error problem => simp [bodyHypothesis, bodyRead, Outcome.ofVerdict]
          | ok last =>
              cases alternativeRead : alternative.skip inner with
              | error problem =>
                  simp [bodyHypothesis, bodyRead, alternativeHypothesis, alternativeRead, Outcome.ofVerdict]
              | ok last' =>
                  simp [bodyHypothesis, bodyRead, alternativeHypothesis, alternativeRead, restHypothesis,
                    Outcome.ofVerdict]
  | loop number condition body rest bodyHypothesis restHypothesis =>
      rw [walk, Block.skip]
      cases Nesting.enter? Nesting.blockCost left with
      | none => simp [Outcome.ofVerdict]
      | some inner =>
          cases bodyRead : body.skip inner with
          | error problem => simp [bodyHypothesis, bodyRead, Outcome.ofVerdict]
          | ok last => simp [bodyHypothesis, bodyRead, restHypothesis, Outcome.ofVerdict]
  | iterate number count body rest bodyHypothesis restHypothesis =>
      rw [walk, Block.skip]
      cases Nesting.enter? Nesting.blockCost left with
      | none => simp [Outcome.ofVerdict]
      | some inner =>
          cases bodyRead : body.skip inner with
          | error problem => simp [bodyHypothesis, bodyRead, Outcome.ofVerdict]
          | ok last => simp [bodyHypothesis, bodyRead, restHypothesis, Outcome.ofVerdict]

/-- A live walk runs the block. -/
theorem walk_true : program.walk registry fuel true left block progress =
    program.execute registry fuel left block progress := by
  fun_induction execute program registry fuel left block progress with
  | case1 =>
      unfold walk
      exact dif_pos ⟨rfl, rfl⟩
  | case9 fuel left number name rest progress other span found sober inner entered called problem reached ran
      body =>
      rw [ran] at body
      simp [walk, other, found, sober, entered, called, body]
  | case10 fuel left number name rest progress other span found sober inner entered called last reached ran
      body after =>
      rw [ran] at body
      simp [walk, other, found, sober, entered, called, body, after]
  | _ =>
      -- In the other steps the walk makes the choices of the run, and reads what the run skips.
      rw [walk]
      simp_all [walk_false, Outcome.ofVerdict]

/-- Carrying out a block is a walk with the same flag. -/
theorem carryOut_eq_walk (live : Bool) : program.carryOut registry fuel live block progress =
    program.walk registry fuel live Nesting.limit block progress := by
  cases live with
  | true =>
      rw [walk_true]
      rfl
  | false =>
      rw [walk_false, carryOut, if_neg Bool.false_ne_true]
      cases block.skip Nesting.limit <;> rfl

end

/-- The markers or the declarations of a program are refused, before its execution section starts. -/
def Refuses (program : Program) (registry : Registry) (problem : Stop) : Prop :=
  program.checkMarkers = .error problem ∨ program.checkMarkers = .ok () ∧
    (program.declare program.turnoffNumber program.turnoffNumber 1 registry).1 = .error problem

/-- A run that is refused has done nothing. -/
theorem Refuses.run_eq {program : Program} {registry : Registry} {problem : Stop}
    (refuses : program.Refuses registry problem) (fuel : Nat) (world : World) :
    (program.run fuel world registry).stop = some problem ∧
      (program.run fuel world registry).progress = { world } := by
  rcases refuses with unmarked | ⟨marked, undeclared⟩
  · rw [run, unmarked]
    exact ⟨rfl, rfl⟩
  · cases declared : program.declare program.turnoffNumber program.turnoffNumber 1 registry with
    | mk result known =>
        rw [declared] at undeclared
        cases undeclared
        rw [run, marked, declared]
        exact ⟨rfl, rfl⟩

/-- A walk that is not live has a verdict of its own and leaves everything as it was. -/
theorem walk_false_unaffected (program : Program) (registry registry' : Registry) (fuel fuel' left : Nat)
    (block : Block) (progress progress' : Progress) :
    (program.walk registry fuel false left block progress).verdict =
        (program.walk registry' fuel' false left block progress').verdict ∧
      (program.walk registry fuel false left block progress).progress = progress := by
  rw [walk_false, walk_false]
  cases block.skip left <;> exact ⟨rfl, rfl⟩

/-- Skipping has no effect and sees no state. A range that is not live has the same verdict in any two worlds
and with any two registries, and leaves the world, its steps and the actions done so far as they were. This is
a walk in which every step hands the flag on, and the same holds of every block that it comes to. So a run
that is refused before its execution section starts leaves the world as it was, and nobody is told of it. -/
theorem skipping_sees_no_state :
    (∀ (program : Program) (start stop : Nat) (depth : Int) (registry registry' : Registry) (fuel fuel' : Nat)
      (progress progress' : Progress),
      (program.carryOut registry fuel false (program.block start stop depth) progress).verdict =
          (program.carryOut registry' fuel' false (program.block start stop depth) progress').verdict ∧
        (program.carryOut registry fuel false (program.block start stop depth) progress).progress = progress) ∧
    (∀ (program : Program) (registry : Registry) (fuel : Nat) (live : Bool) (block : Block)
      (progress : Progress), program.carryOut registry fuel live block progress =
        program.walk registry fuel live Nesting.limit block progress) ∧
    (∀ (program : Program) (registry registry' : Registry) (fuel fuel' left : Nat) (block : Block)
      (progress progress' : Progress),
      (program.walk registry fuel false left block progress).verdict =
          (program.walk registry' fuel' false left block progress').verdict ∧
        (program.walk registry fuel false left block progress).progress = progress) ∧
    (∀ (program : Program) (registry : Registry) (problem : Stop), program.Refuses registry problem →
      ∀ (α : Type) [Listener α] (fuel : Nat) (world : World) (listeners : List α) (workspace : Workspace),
        (program.run fuel world registry).stop = some problem ∧
        (program.run fuel world registry).world = world ∧
        program.watch fuel world registry listeners workspace =
          { execution := program.run fuel world registry, listeners, workspace }) := by
  refine ⟨?_, ?_, walk_false_unaffected, ?_⟩
  · intro program start stop depth registry registry' fuel fuel' progress progress'
    rw [carryOut_eq_walk, carryOut_eq_walk]
    apply walk_false_unaffected
  · intro program registry fuel live block progress
    apply carryOut_eq_walk
  · intro program registry problem refuses α _ fuel world listeners workspace
    obtain ⟨stopped, untouched⟩ := refuses.run_eq fuel world
    obtain ⟨same, none⟩ := Progress.mk.inj untouched
    exact ⟨stopped, same, watch_of_still (List.reverse_eq_nil_iff.mp none) listeners workspace⟩

/-- A program that defines an instruction with a semicolon missing in its body. -/
def slip : Program :=
  classify
    ["BEGINNING-OF-PROGRAM", "\tDEFINE-NEW-INSTRUCTION stride AS", "\tBEGIN", "\t\tmove", "\t\tmove", "\tEND",
      "\tBEGINNING-OF-EXECUTION", "\t\tmove;", "\t\tturnoff", "\tEND-OF-EXECUTION", "END-OF-PROGRAM"]

theorem skipping_sees_no_state_slip :
    slip.Refuses {} (.fault (.onLine .missingSemicolon 3)) ∧
      (slip.run 20 .corridor {}).world = .corridor := by
  have refuses : slip.Refuses {} (.fault (.onLine .missingSemicolon 3)) := Or.inr ⟨by rfl, by rfl⟩
  obtain ⟨_, untouched, _⟩ :=
    skipping_sees_no_state.2.2.2 slip {} _ refuses Observer 20 .corridor [] { files := {}, directory := [] }
  exact ⟨refuses, untouched⟩

end Program

end GridRobot
