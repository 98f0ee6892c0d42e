import GridRobot.Proofs.Grammar

namespace GridRobot

/-- What a run of the execution section means for the whole run. -/
def Outcome.execution (registry : Registry) : Outcome → Execution
  | .finished _ progress => { world := progress.world, actions := progress.actions.reverse, registry }
  | .stopped problem progress =>
    { world := progress.world, actions := progress.actions.reverse, registry, stop := some problem }

theorem Registry.checkAvailable_eq_ok {registry : Registry} {name : String} {line : Option Int} :
    registry.checkAvailable name line = .ok () ↔
      Action.ofName? name = none ∧ registry.find? name = none := by
  rw [checkAvailable, contains]
  cases Action.ofName? name with
  | some action => simp
  | none => cases registry.find? name <;> simp

namespace Program

/-- A program with an instruction, a loop and a branch with an alternative. -/
def tour : Program :=
  classify
    ["BEGINNING-OF-PROGRAM", "\tDEFINE-NEW-INSTRUCTION turnright AS", "\tBEGIN", "\t\tITERATE 3 TIMES",
      "\t\tBEGIN", "\t\t\tturnleft", "\t\tEND", "\tEND", "\tBEGINNING-OF-EXECUTION",
      "\t\tWHILE front-is-clear DO", "\t\tBEGIN",
      "\t\t\tmove", "\t\tEND;", "\t\tIF next-to-a-beeper THEN", "\t\tBEGIN", "\t\t\tpickbeeper", "\t\tEND;",
      "\t\tELSE", "\t\tBEGIN", "\t\t\tturnright", "\t\tEND;", "\t\tturnoff", "\tEND-OF-EXECUTION",
      "END-OF-PROGRAM"]

theorem marked_tour : tour.checkMarkers = .ok () := by rfl

section
variable {program : Program} {registry extended known : Registry} {name : String}
  {number stop last start : Nat}

/-- Where a name is free and a block is opened, only the body decides over a definition. -/
theorem define_eq (holds : program.Holds number 1 (.define name)) (other : Action.ofName? name = none)
    (free : registry.find? name = none) (inRange : number + 1 < stop)
    (opening : program.Holds (number + 1) 1 .opening) :
    program.define number stop registry =
      match (closeBody .define number stop (program.block (number + 2) stop (2 : Nat))).skip
        (Nesting.limit - Nesting.blockCost) with
      | .error problem => .error problem
      | .ok last =>
        if ordered : number + 2 ≤ last then
          .ok (last, ⟨registry.entries ++ [(name, ⟨number + 2, last, ordered⟩)]⟩)
        else .error (.missingLine last) := by
  obtain ⟨line, present, kind, _⟩ := holds
  have available (place : Option Int) : registry.checkAvailable name place = .ok () :=
    Registry.checkAvailable_eq_ok.mpr ⟨other, free⟩
  have opened : program.openBlock .define number stop definitionDepth = .ok (number + 2) :=
    openBlock_holds inRange opening
  simp only [define, present, kind, LineKind.argument?, LineKind.header?, Option.getD_some, available, opened,
    Registry.define]
  rfl

/-- A definition is accepted exactly if its name is free and its body ends on a line in the range. -/
theorem define_eq_ok (holds : program.Holds number 1 (.define name)) :
    program.define number stop registry = .ok (last, extended) ↔
      Action.ofName? name = none ∧ registry.find? name = none ∧
        program.Holds (number + 1) 1 .opening ∧ last < stop ∧
        (program.block (number + 2) stop (2 : Nat)).skip (Nesting.limit - Nesting.blockCost) = .ok last ∧
        ∃ ordered, extended = ⟨registry.entries ++ [(name, ⟨number + 2, last, ordered⟩)]⟩ := by
  constructor
  · intro defined
    have accepted := defined
    obtain ⟨line, present, kind, sits⟩ := holds
    simp only [define, present, kind, LineKind.argument?, LineKind.header?, Option.getD_some] at defined
    split at defined
    · cases defined
    · rename_i available
      obtain ⟨other, free⟩ := Registry.checkAvailable_eq_ok.mp available
      split at defined
      · cases defined
      · rename_i first opened
        obtain ⟨inRange, _, begin, begun, opens, aligned⟩ := openBlock_eq_ok.mp opened
        have opening : program.Holds (number + 1) 1 .opening :=
          ⟨begin, begun, opens, of_decide_eq_true aligned⟩
        rw [define_eq ⟨line, present, kind, sits⟩ other free inRange opening] at accepted
        split at accepted
        · cases accepted
        · rename_i reached skipped
          split at accepted
          · rename_i ordered
            cases accepted
            obtain ⟨skipped, inside⟩ := skip_closeBody_eq_ok.mp skipped
            exact ⟨other, free, opening, inside, skipped, ordered, rfl⟩
          · cases accepted
  · rintro ⟨other, free, opening, inside, skipped, ordered, rfl⟩
    rw [define_eq holds other free (by omega) opening, skip_closeBody_eq_ok.mpr ⟨skipped, inside⟩]
    exact dif_pos ordered

/-- The definitions from a line on are accepted up to the line where the execution section starts. -/
inductive Declares (program : Program) (stop : Nat) :
    (number : Nat) → (registry : Registry) → (start : Nat) → (known : Registry) → Prop where
  | start {number : Nat} {registry : Registry} (inRange : number < stop)
      (holds : program.Holds number 1 .executionStart) : Declares program stop number registry number registry
  | define {number last start : Nat} {name : String} {registry extended known : Registry}
      (holds : program.Holds number 1 (.define name))
      (defined : program.define number stop registry = .ok (last, extended))
      (rest : Declares program stop (last + 1) extended start known) :
      Declares program stop number registry start known

/-- Declarations that are read without a problem are accepted. -/
theorem declares_of_declare {fuel : Nat}
    (declared : program.declare stop fuel number registry = (.ok start, known)) :
    program.Declares stop number registry start known := by
  induction fuel generalizing number registry with
  | zero => cases declared
  | succ fuel inductionHypothesis =>
      rw [declare] at declared
      split at declared
      · cases declared
      · rename_i inRange
        split at declared
        · cases declared
        · rename_i line present
          split at declared
          · cases declared
          · rename_i indented
            rw [Line.checkIndent_eq_ok] at indented
            have sits : line.indent = 1 := of_decide_eq_true indented
            split at declared
            · rename_i name kind
              split at declared
              · cases declared
              · rename_i last extended defined
                exact .define ⟨line, present, kind, sits⟩ defined (inductionHypothesis declared)
            · rename_i kind
              cases declared
              exact .start (by omega) ⟨line, present, kind, sits⟩
            · cases declared

/-- The execution section starts on its marker, inside the range. -/
theorem Declares.start_bounds (declares : program.Declares stop number registry start known) :
    start < stop ∧ program.Holds start 1 .executionStart := by
  induction declares with
  | start inRange holds => exact ⟨inRange, holds⟩
  | define holds defined rest inductionHypothesis => exact inductionHypothesis

/-- A run whose declarations are accepted is a run of its execution section. -/
theorem run_of_declare {fuel : Nat} {world : World} (marked : program.checkMarkers = .ok ())
    (declared : program.declare program.turnoffNumber program.turnoffNumber 1 registry = (.ok start, known)) :
    program.run fuel world registry =
      (program.execute known fuel Nesting.limit
        (program.sectionAt (start + 1) program.turnoffNumber executionDepth) { world }).execution known := by
  rw [run, marked, declared]
  simp only
  cases program.execute known fuel Nesting.limit
    (program.sectionAt (start + 1) program.turnoffNumber executionDepth) { world } <;> rfl

end

end Program

end GridRobot
