import GridRobot.Proofs.Recognition
import GridRobot.Proofs.Registration

namespace GridRobot.Program

section
variable {program : Program} {registry extended : Registry} {line : Line} {name : String} {number stop last : Nat}

/-- A definition that is accepted is found under its name, with the lines of its body. -/
theorem find?_of_define (present : program[number]? = some line) (kind : line.kind = .define name)
    (defined : program.define number stop registry = .ok (last, extended)) :
    Action.ofName? name = none ∧
      ∃ span : Span, span.start = number + 2 ∧ span.stop = last ∧ extended.find? name = some span := by
  simp only [define, present, kind, LineKind.argument?, LineKind.header?, Option.getD_some] at defined
  split at defined
  · cases defined
  · rename_i available
    obtain ⟨other, free⟩ := Registry.checkAvailable_eq_ok.mp available
    refine ⟨other, ?_⟩
    split at defined
    · cases defined
    · rename_i first opened
      obtain ⟨_, rfl, _⟩ := openBlock_eq_ok.mp opened
      split at defined
      · cases defined
      · split at defined
        · rename_i ordered
          simp only [Registry.define, available] at defined
          cases defined
          refine ⟨⟨number + 2, _, ordered⟩, rfl, rfl, ?_⟩
          rw [Registry.find?, List.lookup_append, ← Registry.find?, free]
          simp
        · cases defined

/-- The name that a line defines is a word. -/
theorem isWord_of_define {lines : List String} (present : (classify lines)[number]? = some line)
    (kind : line.kind = .define name) : Line.IsWord name := by
  rw [classify, List.getElem?_map, Option.map_eq_some_iff] at present
  obtain ⟨text, _, rfl⟩ := present
  have spelled := Line.spelled_kindOf text.toList
  rw [show Line.kindOf text.toList = .define name from kind] at spelled
  exact spelled

/-- Of the words that can be defined, all but one keyword and those with semicolons can be called. -/
theorem prints_call_iff {depth : Nat} (deep : 2 ≤ depth) (word : Line.IsWord name) :
    Line.Prints depth (name ++ ";") (.statement name true) ↔ name ≠ "END" ∧ ';' ∉ name.toList := by
  by_cases free : ';' ∈ name.toList
  · refine ⟨fun prints => ?_, fun fine => absurd free fine.2⟩
    -- A statement has no semicolon in its name, so the line cannot be read as a call of this one.
    have spelled := Line.spelled_kindOf (Line.printed depth (name ++ ";")).toList
    rw [show Line.kindOf (Line.printed depth (name ++ ";")).toList = .statement name true from prints.1] at spelled
    exact absurd free (Line.isName_iff.mp spelled).2
  · have named := Line.isName_iff.mpr ⟨word, free⟩
    have printed : Line.Prints depth (name ++ ";") (.statement name true) ↔ ¬ Line.Reserves depth name true := by
      have general := @Line.prints_statement_append depth name "" true (by omega) named rfl
      rwa [String.append_empty] at general
    rw [printed]
    simp [Line.Reserves, free]

end

/-- An instruction that is defined can be called, at every depth, unless its name is the word that closes a block or
has a semicolon in it: the line of its name and a semicolon is a statement, and a run that comes to it goes on with
the body that has been registered. -/
theorem defined_instruction_is_callable (lines : List String) (number stop last depth : Nat)
    (registry extended : Registry) (line : Line) (name : String)
    (present : (classify lines)[number]? = some line) (kind : line.kind = .define name)
    (defined : (classify lines).define number stop registry = .ok (last, extended)) (deep : 2 ≤ depth) :
    (Line.Prints depth (name ++ ";") (.statement name true) ↔ name ≠ "END" ∧ ';' ∉ name.toList) ∧
    (name ≠ "END" → ';' ∉ name.toList →
      ∃ span : Span, span.start = number + 2 ∧ span.stop = last ∧ extended.find? name = some span ∧
        ∀ (known : Registry) (place range left inner : Nat) (progress : Progress),
          extended.entries <+: known.entries → place < range →
          (classify lines)[place]? = some (Line.classify (Line.printed depth (name ++ ";"))) →
          ¬ (classify lines).ClosesNext place → (classify lines).selfCall? name span = none →
          Nesting.enter? Nesting.callCost left = some inner →
          (classify lines).Leads known ⟨left, (classify lines).block place range depth, progress⟩
            ⟨inner, (classify lines).sectionAt span.start span.stop instructionDepth, progress⟩) := by
  have callable := prints_call_iff deep (isWord_of_define present kind)
  refine ⟨callable, fun unclosed free => ?_⟩
  obtain ⟨other, span, start, finish, found⟩ := find?_of_define present kind defined
  refine ⟨span, start, finish, found, ?_⟩
  intro known place range left inner progress kept inRange calls open' sober entered
  have prints := callable.mpr ⟨unclosed, free⟩
  have holds : (classify lines).Holds place depth (.statement name true) := ⟨_, calls, prints⟩
  have punctuated : (classify lines).Punctuated place := by
    refine ⟨_, calls, ?_⟩
    rw [prints.1]
    simpa [LineKind.isTerminated] using open'
  rw [block_statement inRange holds punctuated]
  exact .intoCall other (Registry.find?_of_prefix kept found) sober entered

/-- The lines of a program that defines an instruction and calls it. -/
def whirl (name : String) : List String :=
  ["BEGINNING-OF-PROGRAM", "\tDEFINE-NEW-INSTRUCTION " ++ name ++ " AS", "\tBEGIN", "\t\tturnleft", "\tEND",
    "\tBEGINNING-OF-EXECUTION", "\t\t" ++ name ++ ";", "\t\tturnoff", "\tEND-OF-EXECUTION", "END-OF-PROGRAM"]

/-- Even the word that opens a block can be defined and called. -/
theorem defined_instruction_is_callable_whirl :
    (classify (whirl "BEGIN")).define 1 7 {} = .ok (4, ⟨[("BEGIN", ⟨3, 4, by decide⟩)]⟩) ∧
    Line.Prints 2 ("BEGIN" ++ ";") (.statement "BEGIN" true) ∧
    ∃ span : Span, span.start = 3 ∧ span.stop = 4 ∧ ∀ progress : Progress,
      (classify (whirl "BEGIN")).Leads ⟨[("BEGIN", ⟨3, 4, by decide⟩)]⟩
        ⟨985, (classify (whirl "BEGIN")).block 6 7 (2 : Nat), progress⟩
        ⟨980, (classify (whirl "BEGIN")).sectionAt span.start span.stop instructionDepth, progress⟩ := by
  have defined : (classify (whirl "BEGIN")).define 1 7 {} = .ok (4, ⟨[("BEGIN", ⟨3, 4, by decide⟩)]⟩) := by
    decide +kernel
  obtain ⟨prints, leads⟩ := defined_instruction_is_callable (whirl "BEGIN") 1 7 4 2 {} _
    (Line.classify "\tDEFINE-NEW-INSTRUCTION BEGIN AS") "BEGIN" (by decide +kernel) (by decide +kernel) defined
    (Nat.le_refl 2)
  obtain ⟨span, start, finish, _, leads⟩ := leads (by decide) (by decide)
  refine ⟨defined, prints.mpr (by decide), span, start, finish, fun progress => ?_⟩
  refine leads _ 6 7 985 980 progress List.prefix_rfl (by decide) (by decide +kernel) ?_ ?_ rfl
  · rintro ⟨next, found, closes⟩
    obtain rfl : Line.classify "\t\tturnoff" = next := Option.some.inj found
    revert closes
    decide +kernel
  · rw [selfCall?, start, Span.length, start, finish]
    decide +kernel

/-- A name with a semicolon is accepted by a definition, and so is the word that closes a block. The line that
should call the one is nothing that can be read, which stops the run; the line that should call the other closes a
block. -/
theorem defined_instruction_cannot_be_called :
    (classify (whirl "go;on")).define 1 7 {} = .ok (4, ⟨[("go;on", ⟨3, 4, by decide⟩)]⟩) ∧
    (Line.classify (Line.printed 2 ("go;on" ++ ";"))).kind = .unknown ∧
    (classify (whirl "go;on")).run 100 ⟨1, 1, ⟨⟨0, 0⟩, .east, 0⟩, [], [], 0⟩ {} =
      { world := ⟨1, 1, ⟨⟨0, 0⟩, .east, 0⟩, [], [], 0⟩
        registry := ⟨[("go;on", ⟨3, 4, by decide⟩)]⟩
        stop := some (.fault (.onLine (.unexpectedLine "go;on;") 6)) } ∧
    (classify (whirl "END")).define 1 7 {} = .ok (4, ⟨[("END", ⟨3, 4, by decide⟩)]⟩) ∧
    (Line.classify (Line.printed 2 ("END" ++ ";"))).kind = .closing true := by
  decide +kernel

end GridRobot.Program
