import GridRobot.Proofs.Source
import Mathlib.Data.List.Basic

namespace GridRobot

namespace Numeral

/-- The digits of a decimal numeral are digits of the program. -/
theorem digitValue?_of_isDigit {char : Char} (digit : char.isDigit = true) :
    Text.digitValue? char = some (char.toNat - '0'.toNat) := by
  have bounds : 48 ≤ char.toNat ∧ char.toNat < 58 := by
    simp only [Char.isDigit, Bool.and_eq_true, decide_eq_true_eq] at digit
    have lower := UInt32.le_iff_toNat_le.mp digit.1
    have upper := UInt32.le_iff_toNat_le.mp digit.2
    exact ⟨lower, Nat.lt_succ_of_le upper⟩
  obtain ⟨others, zeros⟩ : ∃ others, Text.zeroDigits = '0'.toNat :: others := ⟨_, rfl⟩
  have first : ('0'.toNat ≤ char.toNat && char.toNat < '0'.toNat + 10) = true := by
    simp only [Bool.and_eq_true, decide_eq_true_eq]
    exact bounds
  rw [Text.digitValue?, zeros, List.find?_cons]
  simp only [first, Option.map_some]

theorem digitValue?_repr {count : Nat} {char : Char} (member : char ∈ count.repr.toList) :
    Text.digitValue? char = some (char.toNat - '0'.toNat) := by
  rw [Nat.toList_repr] at member
  exact digitValue?_of_isDigit (Nat.isDigit_of_mem_toDigits (by decide) (by decide) member)

theorem isDigit_repr {count : Nat} {char : Char} (member : char ∈ count.repr.toList) :
    Text.isDigit char = true := by
  rw [Text.isDigit, digitValue?_repr member]
  rfl

/-- A number is the value of its numeral. -/
theorem valueOf_repr (count : Nat) : valueOf count.repr.toList = count := by
  have values : count.repr.toList.filterMap Text.digitValue? =
      count.repr.toList.map fun char => char.toNat - '0'.toNat := by
    rw [← List.filterMap_eq_map]
    exact List.filterMap_congr fun char member => digitValue?_repr member
  rw [valueOf, values, List.foldl_map, Nat.toList_repr, ← Nat.ofDigitChars_eq_foldl,
    Nat.ofDigitChars_ten_toDigits]

theorem repr_ne_empty {count : Nat} : count.repr ≠ "" := by
  intro empty
  have digits : Nat.toDigits 10 count = [] := by rw [← Nat.toList_repr, empty]; rfl
  exact Nat.toDigits_ne_nil digits

theorem countDigits_repr (count : Nat) : countDigits count.repr.toList = count.repr.length := by
  rw [countDigits, List.countP_eq_length.mpr fun char => isDigit_repr, String.length_toList]

end Numeral

namespace Line

/-- The words are printed as a line of the kind at the depth. -/
def Prints (depth : Nat) (words : String) (kind : LineKind) : Prop :=
  (classify (printed depth words)).kind = kind ∧ (classify (printed depth words)).indent = depth

section
variable {depth : Nat} {words : String} {kind : LineKind}

theorem Prints.of_kindOf (solid : words.toList.head? ≠ some indentChar)
    (found : kindOf (indented depth words.toList) = kind) : Prints depth words kind := by
  simp only [Prints, classify, printed, indent, String.toList_ofList]
  exact ⟨found, leadingIndent_indented solid⟩

/-- A printed line is read as its text with its kind. -/
theorem Prints.classify_eq (prints : Prints depth words kind) :
    classify (printed depth words) = ⟨printed depth words, kind⟩ := by
  rw [← prints.1]
  rfl

theorem prints_word {test : Nat → Bool} (member : wordPattern test words kind ∈ keywordPatterns)
    (deep : test depth = true) (filled : words.toList ≠ []) (solid : words.toList.head? ≠ some indentChar) :
    Prints depth words kind := by
  refine .of_kindOf solid ?_
  rw [← List.append_nil words.toList]
  exact kindOf_word member deep filled solid rfl

theorem prints_marker (member : wordPattern (· = depth) words kind ∈ keywordPatterns) (filled : words.toList ≠ [])
    (solid : words.toList.head? ≠ some indentChar) : Prints depth words kind :=
  prints_word member (decide_eq_true rfl) filled solid

theorem prints_programStart : Prints 0 "BEGINNING-OF-PROGRAM" .programStart :=
  prints_marker (by simp [keywordPatterns]) (by decide) (by decide)

theorem prints_programEnd : Prints 0 "END-OF-PROGRAM" .programEnd :=
  prints_marker (by simp [keywordPatterns]) (by decide) (by decide)

theorem prints_executionStart : Prints 1 "BEGINNING-OF-EXECUTION" .executionStart :=
  prints_marker (by simp [keywordPatterns]) (by decide) (by decide)

theorem prints_executionEnd : Prints 1 "END-OF-EXECUTION" .executionEnd :=
  prints_marker (by simp [keywordPatterns]) (by decide) (by decide)

theorem prints_turnoff : Prints 2 "turnoff" .turnoff :=
  prints_marker (by simp [keywordPatterns]) (by decide) (by decide)

theorem prints_opening (positive : 0 < depth) : Prints depth "BEGIN" .opening :=
  prints_word (show wordPattern isIndented "BEGIN" .opening ∈ keywordPatterns by simp [keywordPatterns])
    (decide_eq_true positive) (by decide) (by decide)

theorem prints_otherwise (positive : 0 < depth) : Prints depth "ELSE" .otherwise :=
  prints_word (show wordPattern isIndented "ELSE" .otherwise ∈ keywordPatterns by simp [keywordPatterns])
    (decide_eq_true positive) (by decide) (by decide)

theorem prints_closing (positive : 0 < depth) (terminated : Bool) :
    Prints depth ("END" ++ terminator terminated) (.closing terminated) := by
  refine .of_kindOf (by simp [indentChar]) ?_
  rw [String.toList_append, ← List.append_nil (terminator terminated).toList]
  exact kindOf_closing positive terminated rfl

theorem prints_define_append {name tail : String} (positive : 0 < depth) (word : IsWord name)
    (ends : isLineEnd tail.toList = true) :
    Prints depth ("DEFINE-NEW-INSTRUCTION " ++ name ++ " AS" ++ tail) (.define name) := by
  refine .of_kindOf (by simp [indentChar]) ?_
  simp only [String.toList_append, List.append_assoc]
  exact kindOf_define positive word ends

theorem prints_define {name : String} (positive : 0 < depth) (named : IsName name) :
    Prints depth ("DEFINE-NEW-INSTRUCTION " ++ name ++ " AS") (.define name) := by
  rw [← @String.append_empty ("DEFINE-NEW-INSTRUCTION " ++ name ++ " AS")]
  exact prints_define_append positive (isName_iff.mp named).1 rfl

theorem prints_branch_append {condition tail : String} (positive : 0 < depth) (fine : IsCondition condition)
    (ends : isLineEnd tail.toList = true) :
    Prints depth ("IF " ++ condition ++ " THEN" ++ tail) (.branch condition) := by
  refine .of_kindOf (by simp [indentChar]) ?_
  simp only [String.toList_append, List.append_assoc]
  exact kindOf_branch positive fine ends

theorem prints_branch {condition : String} (positive : 0 < depth) (fine : IsCondition condition) :
    Prints depth ("IF " ++ condition ++ " THEN") (.branch condition) := by
  rw [← @String.append_empty ("IF " ++ condition ++ " THEN")]
  exact prints_branch_append positive fine rfl

theorem prints_loop_append {condition tail : String} (positive : 0 < depth) (fine : IsCondition condition)
    (ends : isLineEnd tail.toList = true) :
    Prints depth ("WHILE " ++ condition ++ " DO" ++ tail) (.loop condition) := by
  refine .of_kindOf (by simp [indentChar]) ?_
  simp only [String.toList_append, List.append_assoc]
  exact kindOf_loop positive fine ends

theorem prints_loop {condition : String} (positive : 0 < depth) (fine : IsCondition condition) :
    Prints depth ("WHILE " ++ condition ++ " DO") (.loop condition) := by
  rw [← @String.append_empty ("WHILE " ++ condition ++ " DO")]
  exact prints_loop_append positive fine rfl

theorem prints_digits_append {digits tail : String} (positive : 0 < depth) (filled : digits ≠ "")
    (numeral : digits.toList.all Text.isDigit = true) (ends : isLineEnd tail.toList = true) :
    Prints depth ("ITERATE " ++ digits ++ " TIMES" ++ tail) (.iterate digits) := by
  refine .of_kindOf (by simp [indentChar]) ?_
  simp only [String.toList_append, List.append_assoc]
  exact kindOf_iterate positive filled numeral ends

theorem prints_digits {digits : String} (positive : 0 < depth) (filled : digits ≠ "")
    (numeral : digits.toList.all Text.isDigit = true) :
    Prints depth ("ITERATE " ++ digits ++ " TIMES") (.iterate digits) := by
  rw [← @String.append_empty ("ITERATE " ++ digits ++ " TIMES")]
  exact prints_digits_append positive filled numeral rfl

theorem prints_iterate (positive : 0 < depth) (count : Nat) :
    Prints depth ("ITERATE " ++ count.repr ++ " TIMES") (.iterate count.repr) :=
  prints_digits positive Numeral.repr_ne_empty (List.all_eq_true.mpr fun _ => Numeral.isDigit_repr)

/-- A line of one name is printed as a statement exactly if it is not reserved. -/
theorem prints_statement_append {name tail : String} {terminated : Bool} (positive : 0 < depth) (named : IsName name)
    (ends : isLineEnd tail.toList = true) :
    Prints depth (name ++ terminator terminated ++ tail) (.statement name terminated) ↔
      ¬ Reserves depth name terminated := by
  obtain ⟨filled, solid⟩ := (isName_iff.mp named).1.head?_ne
  have solid' := @head?_append_ne _ ((terminator terminated).toList ++ tail.toList) filled solid
  rw [← kindOf_eq_statement_iff positive named ends, Prints, classify, printed, indent]
  simp only [String.toList_append, String.toList_ofList, List.append_assoc, leadingIndent_indented solid',
    and_true]

theorem prints_statement {name : String} (deep : 2 ≤ depth) (named : IsName name) (free : name ∉ reserved)
    (terminated : Bool) : Prints depth (name ++ terminator terminated) (.statement name terminated) := by
  rw [← @String.append_empty (name ++ terminator terminated), prints_statement_append (by omega) named rfl]
  simp only [reserved, List.mem_cons, List.not_mem_nil, or_false, not_or] at free
  rintro (rfl | ⟨_, names | ⟨_, rfl⟩ | ⟨flat, _⟩⟩)
  · exact free.2.1 rfl
  · simp_all
  · exact free.2.2.2 rfl
  · omega

end

end Line

namespace Program

/-- The lines stand in the program from a number on. -/
def Continues (program : Program) (number : Nat) (lines : List String) : Prop :=
  classify lines <+: program.drop number

section
variable {program : Program} {number : Nat} {lines : List String}

theorem continues_cons {line : String} :
    program.Continues number (line :: lines) ↔
      program[number]? = some (Line.classify line) ∧ program.Continues (number + 1) lines := by
  have head : program[number]? = (program.drop number).head? := by rw [List.head?_drop]
  have tail : program.drop (number + 1) = (program.drop number).tail := by rw [List.tail_drop]
  rw [Continues, Continues, head, tail, classify, classify, List.map_cons]
  cases program.drop number with
  | nil => simp
  | cons first others => simp [List.cons_prefix_cons, eq_comm]

theorem continues_append {first second : List String} :
    program.Continues number (first ++ second) ↔
      program.Continues number first ∧ program.Continues (number + first.length) second := by
  induction first generalizing number with
  | nil => simp [Continues, classify]
  | cons line others inductionHypothesis =>
      rw [List.cons_append, continues_cons, continues_cons, inductionHypothesis, and_assoc, List.length_cons,
        Nat.add_right_comm, Nat.add_assoc number]

end

section
variable {openBlocks : List Nat} {number : Nat} {line : Line} {rest : Program}

theorem balanceFrom_opening (kind : line.kind = .opening) :
    balanceFrom openBlocks number (line :: rest) = balanceFrom (number :: openBlocks) (number + 1) rest := by
  cases openBlocks <;> simp only [balanceFrom, kind]

theorem balanceFrom_closing {opened : Nat} {terminated : Bool} (kind : line.kind = .closing terminated) :
    balanceFrom (opened :: openBlocks) number (line :: rest) = balanceFrom openBlocks (number + 1) rest := by
  simp only [balanceFrom, kind]

theorem balanceFrom_plain (plain : line.kind ≠ .opening ∧ line.kind.isClosing = false) :
    balanceFrom openBlocks number (line :: rest) = balanceFrom openBlocks (number + 1) rest := by
  obtain ⟨text, kind⟩ := line
  cases kind <;> cases openBlocks <;> simp_all [balanceFrom, LineKind.isClosing]

end

/-- The lines that stand in a program are a part of it. -/
theorem Continues.take_eq {program : Program} {number : Nat} {lines : List String}
    (text : program.Continues number lines) : (program.drop number).take lines.length = classify lines := by
  have size : (classify lines).length = lines.length := List.length_map ..
  rw [← size]
  exact (List.prefix_iff_eq_take.mp text).symm

/-- The lines open and close blocks in pairs. -/
def Balanced (lines : List String) : Prop :=
  ∀ openBlocks number rest, balanceFrom openBlocks number (classify lines ++ rest) =
    balanceFrom openBlocks (number + lines.length) rest

namespace Balanced

variable {depth : Nat} {words : String} {kind : LineKind} {first second inside : List String}

theorem nil : Balanced [] := fun _ _ _ => rfl

theorem append (before : Balanced first) (after : Balanced second) : Balanced (first ++ second) := by
  intro openBlocks number rest
  rw [classify, List.map_append, List.append_assoc, List.length_append, ← Nat.add_assoc]
  exact (before _ _ _).trans (after _ _ _)

theorem cons (prints : Line.Prints depth words kind) (plain : kind ≠ .opening ∧ kind.isClosing = false)
    (after : Balanced second) : Balanced (Line.printed depth words :: second) := by
  intro openBlocks number rest
  rw [← prints.1] at plain
  have place : number + (second.length + 1) = number + 1 + second.length := by omega
  rw [classify, List.map_cons, List.cons_append, balanceFrom_plain plain, List.length_cons, place]
  exact after _ _ _

theorem flatMap {α : Type} {items : List α} {lines : α → List String}
    (each : ∀ item ∈ items, Balanced (lines item)) : Balanced (items.flatMap lines) := by
  induction items with
  | nil => exact nil
  | cons item items inductionHypothesis =>
      rw [List.flatMap_cons]
      rw [List.forall_mem_cons] at each
      exact each.1.append (inductionHypothesis each.2)

theorem enclosed {terminated : Bool} (positive : 0 < depth) (balanced : Balanced inside) :
    Balanced (Line.enclosed depth inside terminated) := by
  intro openBlocks number rest
  have opened := (Line.prints_opening positive).1
  have closed := (Line.prints_closing positive terminated).1
  have pass := balanced (number :: openBlocks) (number + 1)
    (Line.classify (Line.printed depth ("END" ++ Line.terminator terminated)) :: rest)
  simp only [Line.enclosed, classify, List.map_cons, List.map_append, List.cons_append, List.append_assoc,
    List.map_nil, List.nil_append, List.length_cons, List.length_append, List.length_nil] at pass ⊢
  rw [balanceFrom_opening opened, pass, balanceFrom_closing closed]
  congr 1
  omega

/-- The printed lines of a block open and close blocks in pairs. -/
theorem code {code : Code} {closed : Bool} (deep : 2 ≤ depth) (valid : code.Valid) :
    Balanced (code.lines depth closed) := by
  induction code generalizing depth closed with
  | done => exact nil
  | statement name rest inductionHypothesis =>
      exact cons (Line.prints_statement deep valid.1 valid.2.1 _) (by simp [LineKind.isClosing])
        (inductionHypothesis deep valid.2.2)
  | branch condition body rest bodyHypothesis restHypothesis =>
      exact cons (Line.prints_branch (by omega) valid.1) (by simp [LineKind.isClosing])
        ((enclosed (by omega) (bodyHypothesis (by omega) valid.2.1)).append (restHypothesis deep valid.2.2))
  | choice condition body alternative rest bodyHypothesis alternativeHypothesis restHypothesis =>
      obtain ⟨fine, bodyValid, alternativeValid, restValid⟩ := valid
      have other : Balanced (Line.printed depth "ELSE" ::
          (Line.enclosed depth (alternative.lines (depth + 1) true) (!rest.endsNext closed) ++
            rest.lines depth closed)) :=
        cons (Line.prints_otherwise (by omega)) (by simp [LineKind.isClosing])
          ((enclosed (by omega) (alternativeHypothesis (by omega) alternativeValid)).append
            (restHypothesis deep restValid))
      exact cons (Line.prints_branch (by omega) fine) (by simp [LineKind.isClosing])
        ((enclosed (by omega) (bodyHypothesis (by omega) bodyValid)).append other)
  | loop condition body rest bodyHypothesis restHypothesis =>
      exact cons (Line.prints_loop (by omega) valid.1) (by simp [LineKind.isClosing])
        ((enclosed (by omega) (bodyHypothesis (by omega) valid.2.1)).append (restHypothesis deep valid.2.2))
  | iterate count body rest bodyHypothesis restHypothesis =>
      exact cons (Line.prints_iterate (by omega) count) (by simp [LineKind.isClosing])
        ((enclosed (by omega) (bodyHypothesis (by omega) valid.2.1)).append (restHypothesis deep valid.2.2))

end Balanced

/-- The name that a line calls, if it is a statement. -/
def calledName? (line : Line) : Option String :=
  match line.kind with
  | .statement name _ => some name
  | _ => none

/-- The names that the lines of a program call, in order. -/
def calledNames (program : Program) : List String :=
  program.filterMap calledName?

theorem calls_eq_false_iff {name : String} {line : Line} :
    calls name line = false ↔ calledName? line ≠ some name := by
  rw [calls, calledName?]
  split <;> simp_all

/-- A body calls its own name exactly if the name is among those that its lines call. -/
theorem selfCall?_eq_none {program : Program} {name : String} {span : Span} :
    program.selfCall? name span = none ↔
      name ∉ calledNames ((program.drop span.start).take span.length) := by
  rw [selfCall?, Option.map_eq_none_iff, List.findIdx?_eq_none_iff]
  simp only [calls_eq_false_iff, calledNames, List.mem_filterMap, not_exists, not_and]

section
variable {depth : Nat}

theorem calledName?_printed {words : String} {kind : LineKind} (prints : Line.Prints depth words kind)
    (plain : ∀ name terminated, kind ≠ .statement name terminated) :
    calledName? (Line.classify (Line.printed depth words)) = none := by
  rw [calledName?, prints.1]
  split
  · exact absurd rfl (plain _ _)
  · rfl

/-- An enclosed block calls what the lines inside it call. -/
theorem calledNames_enclosed {terminated : Bool} {inside : List String} (positive : 0 < depth) :
    calledNames (classify (Line.enclosed depth inside terminated)) = calledNames (classify inside) := by
  have opening := calledName?_printed (Line.prints_opening positive) (by simp)
  have closing := calledName?_printed (Line.prints_closing positive terminated) (by simp)
  simp only [calledNames, classify, Line.enclosed, List.map_cons, List.map_append, List.map_nil,
    List.filterMap_cons, List.filterMap_append, List.filterMap_nil, opening, closing, List.append_nil]

theorem calledNames_cons {words : String} {kind : LineKind} {lines : List String}
    (prints : Line.Prints depth words kind) (plain : ∀ name terminated, kind ≠ .statement name terminated) :
    calledNames (classify (Line.printed depth words :: lines)) = calledNames (classify lines) := by
  rw [calledNames, classify, List.map_cons, List.filterMap_cons_none (calledName?_printed prints plain)]
  rfl

theorem calledNames_append {first second : List String} :
    calledNames (classify (first ++ second)) = calledNames (classify first) ++ calledNames (classify second) := by
  rw [calledNames, classify, List.map_append, List.filterMap_append]
  rfl

/-- The printed lines of a block call the names of its statements. -/
theorem calledNames_lines {code : Code} {closed : Bool} (deep : 2 ≤ depth) (valid : code.Valid) :
    calledNames (classify (code.lines depth closed)) = code.names := by
  have positive : 0 < depth := by omega
  induction code generalizing depth closed with
  | done => rfl
  | statement name rest inductionHypothesis =>
      obtain ⟨named, free, valid⟩ := valid
      have called : calledName? (Line.classify (Line.printed depth
          (name ++ Line.terminator !rest.endsNext closed))) = some name := by
        rw [calledName?, (Line.prints_statement deep named free _).1]
      rw [calledNames, Code.lines, classify, List.map_cons, List.filterMap_cons_some called]
      exact congrArg (name :: ·) (inductionHypothesis deep valid positive)
  | branch condition body rest bodyHypothesis restHypothesis =>
      obtain ⟨fine, bodyValid, restValid⟩ := valid
      rw [Code.lines, calledNames_cons (Line.prints_branch positive fine) (by simp), calledNames_append,
        calledNames_enclosed positive, bodyHypothesis (by omega) bodyValid (by omega),
        restHypothesis deep restValid positive, Code.names]
  | choice condition body alternative rest bodyHypothesis alternativeHypothesis restHypothesis =>
      obtain ⟨fine, bodyValid, alternativeValid, restValid⟩ := valid
      rw [Code.lines, calledNames_cons (Line.prints_branch positive fine) (by simp), calledNames_append,
        calledNames_enclosed positive, calledNames_cons (Line.prints_otherwise positive) (by simp),
        calledNames_append, calledNames_enclosed positive, bodyHypothesis (by omega) bodyValid (by omega),
        alternativeHypothesis (by omega) alternativeValid (by omega), restHypothesis deep restValid positive,
        Code.names]
  | loop condition body rest bodyHypothesis restHypothesis =>
      obtain ⟨fine, bodyValid, restValid⟩ := valid
      rw [Code.lines, calledNames_cons (Line.prints_loop positive fine) (by simp), calledNames_append,
        calledNames_enclosed positive, bodyHypothesis (by omega) bodyValid (by omega),
        restHypothesis deep restValid positive, Code.names]
  | iterate count body rest bodyHypothesis restHypothesis =>
      obtain ⟨short, bodyValid, restValid⟩ := valid
      rw [Code.lines, calledNames_cons (Line.prints_iterate positive count) (by simp), calledNames_append,
        calledNames_enclosed positive, bodyHypothesis (by omega) bodyValid (by omega),
        restHypothesis deep restValid positive, Code.names]

end

end Program

end GridRobot
