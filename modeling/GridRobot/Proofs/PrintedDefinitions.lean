import GridRobot.Proofs.Declarations
import GridRobot.Proofs.Readback

namespace GridRobot

namespace Program

/-- The entry has the name of the definition, and its section is the body. -/
structure Records (program : Program) (entry : String × Span) (definition : String × Code) : Prop where
  named : entry.1 = definition.1
  shows : (program.sectionAt entry.2.start entry.2.stop instructionDepth).Shows definition.2
  sober : program.selfCall? definition.1 entry.2 = none ↔ definition.1 ∉ definition.2.names

/-- A valid definition is written from a line on, and its closing line is in the range. -/
structure Introduces (program : Program) (number close stop : Nat) (definition : String × Code) : Prop where
  named : Line.IsName definition.1
  new : Action.ofName? definition.1 = none
  valid : definition.2.Valid
  text : program.Continues number (Source.definitionLines definition)
  length : close = number + 2 + (definition.2.lines 2 true).length
  inRange : close < stop
  covered : stop ≤ program.length

namespace Introduces

variable {program : Program} {registry : Registry} {number close stop : Nat} {definition : String × Code}

theorem holds (introduces : program.Introduces number close stop definition) :
    program.Holds number 1 (.define definition.1) ∧ program.Holds (number + 1) 1 .opening := by
  obtain ⟨header, text⟩ := continues_cons.mp introduces.text
  obtain ⟨opening, _⟩ := continues_cons.mp text
  exact ⟨.of_prints (Line.prints_define (by decide) introduces.named) header,
    .of_prints (Line.prints_opening (by decide)) opening⟩

theorem inside (introduces : program.Introduces number close stop definition) :
    program.Continues (number + 2) (definition.2.lines 2 true) ∧ program.Holds close 1 (.closing false) := by
  obtain ⟨_, text⟩ := continues_cons.mp introduces.text
  obtain ⟨_, text⟩ := continues_cons.mp text
  obtain ⟨inside, closing⟩ := continues_append.mp text
  rw [Nat.add_assoc number, ← introduces.length] at closing
  exact ⟨inside, .of_prints (Line.prints_closing (by decide) false) (continues_cons.mp closing).1⟩

/-- The body is read as its code, whether the range ends with it or later. -/
theorem shows {bound : Nat} (introduces : program.Introduces number close stop definition)
    (ordered : close ≤ bound) (covered : bound ≤ stop) :
    (program.block (number + 2) bound (2 : Nat)).Shows definition.2 ∧
      (program.block (number + 2) bound (2 : Nat)).ending = .ok close := by
  obtain ⟨inside, holds⟩ := introduces.inside
  have ended : program.block close bound (2 : Nat) = .done close := by
    rcases Nat.lt_or_eq_of_le ordered with earlier | rfl
    · exact block_closing earlier holds
    · exact block_of_le (Nat.le_refl close)
  exact Written.shows (Nat.le_trans covered introduces.covered) (by decide) introduces.valid
    ⟨inside, introduces.length, holds.follows, ended, ordered⟩

/-- The span of the body records the definition. -/
theorem records (introduces : program.Introduces number close stop definition) (ordered : number + 2 ≤ close) :
    program.Records (definition.1, ⟨number + 2, close, ordered⟩) definition := by
  obtain ⟨shows, ended⟩ := introduces.shows (Nat.le_refl close) (Nat.le_of_lt introduces.inRange)
  refine ⟨rfl, ?_, ?_⟩
  · rw [← sectionAt_of_ending ended] at shows
    exact shows
  · have size : close - (number + 2) = (definition.2.lines 2 true).length := by
      rw [introduces.length]
      omega
    rw [selfCall?_eq_none]
    simp only [Span.length, size]
    rw [introduces.inside.1.take_eq, calledNames_lines (by decide) introduces.valid]

/-- With room for its body, the definition is accepted and recorded. -/
theorem define_of_le (introduces : program.Introduces number close stop definition)
    (free : registry.find? definition.1 = none)
    (room : Nesting.blockCost * definition.2.height + Nesting.blockCost ≤ Nesting.limit) :
    ∃ span, program.define number stop registry = .ok (close, ⟨registry.entries ++ [(definition.1, span)]⟩) ∧
      program.Records (definition.1, span) definition := by
  obtain ⟨shows, ended⟩ := introduces.shows (Nat.le_of_lt introduces.inRange) (Nat.le_refl stop)
  obtain ⟨holds, opening⟩ := introduces.holds
  have ordered : number + 2 ≤ close := by
    rw [introduces.length]
    exact Nat.le_add_right _ _
  have skipped : (program.block (number + 2) stop (2 : Nat)).skip (Nesting.limit - Nesting.blockCost) =
      .ok close := by
    refine Block.skip_eq_ok_iff.mpr ⟨shows.sound, ?_, ended⟩
    rw [shows.height_eq]
    omega
  refine ⟨⟨number + 2, close, ordered⟩, ?_, introduces.records ordered⟩
  exact (define_eq_ok holds).mpr
    ⟨introduces.new, free, opening, introduces.inRange, skipped, ordered, rfl⟩

/-- Without room for its body, the definition nests too deeply. -/
theorem define_of_lt (introduces : program.Introduces number close stop definition)
    (free : registry.find? definition.1 = none)
    (tight : Nesting.limit < Nesting.blockCost * definition.2.height + Nesting.blockCost) :
    program.define number stop registry = .error .nestingTooDeep := by
  obtain ⟨shows, ended⟩ := introduces.shows (Nat.le_of_lt introduces.inRange) (Nat.le_refl stop)
  obtain ⟨holds, opening⟩ := introduces.holds
  have inRange := introduces.inRange
  have length := introduces.length
  have unread : (program.block (number + 2) stop (2 : Nat)).skip (Nesting.limit - Nesting.blockCost) =
      .error .nestingTooDeep := by
    apply shows.skip_of_lt
    simp only [Nesting.limit, Nesting.blockCost] at *
    omega
  rw [define_eq holds introduces.new free (by omega) opening, closeBody_of_ending ended inRange, unread]

/-- A definition is read before what follows it. -/
theorem declare_succ (introduces : program.Introduces number close stop definition) (fuel : Nat) :
    program.declare stop (fuel + 1) number registry =
      match program.define number stop registry with
      | .error problem => (.error problem, registry)
      | .ok (last, extended) => program.declare stop fuel (last + 1) extended := by
  have inRange := introduces.inRange
  have length := introduces.length
  obtain ⟨line, present, kind, indented⟩ := introduces.holds.1.checkIndent
  have indented : line.checkIndent number definitionDepth = .ok () := indented
  rw [declare, if_neg (by omega)]
  cases program.define number stop registry <;> simp only [present, kind, indented]

end Introduces

/-- Valid definitions are written from a line on up to the execution section, and their names are free. -/
structure Announces (program : Program) (number start stop : Nat) (definitions : List (String × Code))
    (registry : Registry) : Prop where
  named : ∀ definition ∈ definitions, Line.IsName definition.1
  new : ∀ definition ∈ definitions, Action.ofName? definition.1 = none
  valid : ∀ definition ∈ definitions, definition.2.Valid
  distinct : (definitions.map Prod.fst).Nodup
  free : ∀ definition ∈ definitions, registry.find? definition.1 = none
  text : program.Continues number (definitions.flatMap Source.definitionLines)
  length : start = number + (definitions.flatMap Source.definitionLines).length
  starts : program.Holds start 1 .executionStart
  inRange : start < stop
  covered : stop ≤ program.length

section
variable {program : Program} {registry : Registry} {number start stop : Nat} {definition : String × Code}
  {definitions : List (String × Code)}

/-- The first definition is introduced, and the others are announced behind it. -/
theorem Announces.first (announces : program.Announces number start stop (definition :: definitions) registry) :
    ∃ close, program.Introduces number close stop definition ∧ registry.find? definition.1 = none ∧
      ∀ span, program.Announces (close + 1) start stop definitions
        ⟨registry.entries ++ [(definition.1, span)]⟩ := by
  obtain ⟨named, new, valid, distinct, free, text, length, starts, inRange, covered⟩ := announces
  rw [List.flatMap_cons] at text length
  obtain ⟨text, later⟩ := continues_append.mp text
  obtain ⟨close, closeEq⟩ : ∃ close, close = number + 2 + (definition.2.lines 2 true).length := ⟨_, rfl⟩
  have place : number + (Source.definitionLines definition).length = close + 1 := by
    rw [closeEq]
    simp only [Source.definitionLines, Line.enclosed, List.length_cons, List.length_append, List.length_nil]
    omega
  rw [List.length_append, ← Nat.add_assoc, place] at length
  rw [place] at later
  rw [List.map_cons, List.nodup_cons] at distinct
  rw [List.forall_mem_cons] at named new valid free
  refine ⟨close, ⟨named.1, new.1, valid.1, text, closeEq, by omega, covered⟩, free.1, fun span => ?_⟩
  refine ⟨named.2, new.2, valid.2, distinct.2, ?_, later, length, starts, inRange, covered⟩
  intro other member
  have different : other.1 ≠ definition.1 := by
    intro same
    exact distinct.1 (same ▸ List.mem_map_of_mem member)
  rw [Registry.find?, List.lookup_append, ← Registry.find?, free.2 other member]
  simp [different]

/-- Behind the last definition the execution section starts. -/
theorem Announces.declare_nil (announces : program.Announces number start stop [] registry) (fuel : Nat) :
    program.declare stop (fuel + 1) number registry = (.ok start, registry) := by
  have same : start = number := announces.length
  have inRange := announces.inRange
  obtain ⟨line, present, kind, indented⟩ := announces.starts.checkIndent
  have indented : line.checkIndent start definitionDepth = .ok () := indented
  rw [← same, declare, if_neg (by omega)]
  simp only [present, kind, indented]

/-- With room for all bodies, announced definitions are accepted and recorded. -/
theorem Announces.declare_of_le {fuel : Nat}
    (announces : program.Announces number start stop definitions registry)
    (room : Source.readingNesting definitions ≤ Nesting.limit) (enough : definitions.length < fuel) :
    ∃ entries, program.declare stop fuel number registry = (.ok start, ⟨registry.entries ++ entries⟩) ∧
      List.Forall₂ program.Records entries definitions := by
  induction definitions generalizing number registry fuel with
  | nil =>
      obtain ⟨fuel, rfl⟩ := Nat.exists_eq_add_one_of_ne_zero (Nat.ne_of_gt enough)
      exact ⟨[], by rw [announces.declare_nil, List.append_nil], .nil⟩
  | cons definition definitions inductionHypothesis =>
      obtain ⟨fuel, rfl⟩ := Nat.exists_eq_add_one_of_ne_zero (Nat.ne_of_gt (Nat.zero_lt_of_lt enough))
      obtain ⟨close, introduces, free, others⟩ := announces.first
      obtain ⟨room, roomOthers⟩ := Nat.max_le.mp room
      obtain ⟨span, defined, records⟩ := introduces.define_of_le free room
      obtain ⟨entries, declared, recorded⟩ :=
        inductionHypothesis (others span) roomOthers (Nat.lt_of_succ_lt_succ enough)
      refine ⟨(definition.1, span) :: entries, ?_, .cons records recorded⟩
      rw [introduces.declare_succ, defined]
      simp only [declared, List.append_assoc, List.singleton_append]

/-- Without room for all bodies, announced definitions nest too deeply. -/
theorem Announces.declare_of_lt {fuel : Nat}
    (announces : program.Announces number start stop definitions registry)
    (tight : Nesting.limit < Source.readingNesting definitions) (enough : definitions.length < fuel) :
    ∃ known, program.declare stop fuel number registry = (.error .nestingTooDeep, known) := by
  induction definitions generalizing number registry fuel with
  | nil => exact absurd tight (Nat.not_lt_zero _)
  | cons definition definitions inductionHypothesis =>
      obtain ⟨fuel, rfl⟩ := Nat.exists_eq_add_one_of_ne_zero (Nat.ne_of_gt (Nat.zero_lt_of_lt enough))
      obtain ⟨close, introduces, free, others⟩ := announces.first
      rw [introduces.declare_succ]
      by_cases room : Nesting.blockCost * definition.2.height + Nesting.blockCost ≤ Nesting.limit
      · obtain ⟨span, defined, _⟩ := introduces.define_of_le free room
        have tightOthers : Nesting.limit < Source.readingNesting definitions := by
          simp only [Source.readingNesting, List.foldr_cons] at tight ⊢
          omega
        simp only [defined]
        exact inductionHypothesis (others span) tightOthers (Nat.lt_of_succ_lt_succ enough)
      · rw [introduces.define_of_lt free (Nat.lt_of_not_le room)]
        exact ⟨registry, rfl⟩

/-- Recorded definitions are implemented. -/
theorem Implements.of_records {entries : List (String × Span)}
    (recorded : List.Forall₂ program.Records entries definitions) : program.Implements ⟨entries⟩ definitions := by
  induction recorded with
  | nil => exact ⟨fun _ => rfl, fun found => by cases found⟩
  | @cons entry definition entries definitions records recorded inductionHypothesis =>
      obtain ⟨name, span⟩ := entry
      obtain ⟨name', body⟩ := definition
      obtain ⟨rfl, shows, sober⟩ := records
      constructor
      · intro called missing
        rw [List.lookup_cons] at missing
        rw [Registry.find?, List.lookup_cons]
        cases same : called == name with
        | true =>
            rw [same] at missing
            cases missing
        | false =>
            rw [same] at missing
            exact inductionHypothesis.missing missing
      · intro called inside found
        rw [List.lookup_cons] at found
        rw [Registry.find?, List.lookup_cons]
        cases same : called == name with
        | true =>
            rw [same] at found
            cases found
            rw [eq_of_beq same]
            exact ⟨span, rfl, shows, sober⟩
        | false =>
            rw [same] at found
            exact inductionHypothesis.found found

end

end Program

end GridRobot
