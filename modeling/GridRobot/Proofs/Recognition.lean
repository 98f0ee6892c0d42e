import GridRobot.Proofs.Printing
import Mathlib.Data.List.TakeWhile

namespace GridRobot

namespace Numeral

section
variable {text : List Char} {digits : String}

/-- Digits in a row are well separated, since an underscore is no digit. -/
theorem wellSeparated_of_isDigit (filled : text ≠ []) (numeral : ∀ char ∈ text, Text.isDigit char = true) :
    wellSeparated text = true := by
  have strange : ¬ Text.isDigit '_' = true := by decide
  fun_induction wellSeparated text with
  | case1 => exact absurd rfl filled
  | case2 => exact absurd (numeral '_' (by simp)) strange
  | case3 => exact absurd (numeral '_' (by simp)) strange
  | case4 => rfl
  | case5 => exact absurd (numeral '_' (by simp)) strange
  | case6 first rest _ _ more _ inductionHypothesis =>
      rw [List.forall_mem_cons] at numeral
      exact inductionHypothesis more numeral.2

/-- A row of digits that is not too long is read as its value. -/
theorem integer_of_isDigit (filled : digits ≠ "") (numeral : digits.toList.all Text.isDigit = true)
    (short : digits.length ≤ maxDigits) : integer digits = .ok (valueOf digits.toList) := by
  rw [List.all_eq_true] at numeral
  have filled' : digits.toList ≠ [] := fun empty => filled (String.toList_eq_nil_iff.mp empty)
  have bare : splitSign (digits.toList.dropWhile isPadding) = (false, digits.toList) := by
    cases characters : digits.toList with
    | nil => exact absurd characters filled'
    | cons first rest =>
        have digit := numeral first (by simp [characters])
        have solid : isPadding first = false := by
          cases blank : Text.isBlank first with
          | false => rw [isPadding, blank, Bool.false_and]
          | true => rw [Line.isDigit_eq_false_of_isBlank blank] at digit; cases digit
        rw [List.dropWhile_cons_of_neg (by simp [solid]), splitSign]
        · intro _ same
          cases same
          cases digit
        · intro _ same
          cases same
          cases digit
  have passed : ∀ char ∈ digits.toList, (Text.isDigit char || decide (char = '_')) = true := by
    intro char member
    rw [numeral char member, Bool.true_or]
  have counted : ¬ countDigits digits.toList > maxDigits := by
    rw [countDigits, List.countP_eq_length.mpr numeral, String.length_toList]
    exact Nat.not_lt.mpr short
  rw [integer, WideString.shown_ofString, bare]
  simp only [List.takeWhile_eq_self_iff.mpr passed, List.dropWhile_eq_nil_iff.mpr passed,
    wellSeparated_of_isDigit filled' numeral, counted]
  rfl

end

end Numeral

/-- What a line carries has the form that its pattern asks for. -/
def LineKind.Spelled : LineKind → Prop
  | .define name => Line.IsWord name
  | .iterate digits => digits ≠ "" ∧ digits.toList.all Text.isDigit = true
  | .statement name _ => Line.IsName name
  | _ => True

namespace Line

section
variable {text rest : List Char} {kind : LineKind}

/-- The tabs that are counted are those that the text starts with, and all of them. -/
theorem indented_body (text : List Char) :
    text = indented (leadingIndent text) (body text) ∧ (body text).head? ≠ some indentChar := by
  constructor
  · have tabs : text.takeWhile (· = indentChar) = List.replicate (leadingIndent text) indentChar := by
      apply List.eq_replicate_of_mem
      intro char member
      simpa using List.mem_takeWhile_imp member
    rw [indented, ← tabs, body, List.takeWhile_append_dropWhile]
  · intro starts
    have stopped := List.head?_dropWhile_not (· = indentChar) text
    rw [← body, starts] at stopped
    simp at stopped

/-- What is taken has characters, and all of them pass the test. -/
theorem takeSome?_eq_some {test : Char → Bool} {taken : List Char} (took : takeSome? test text = some (taken, rest)) :
    String.ofList taken ≠ "" ∧ (String.ofList taken).toList.all test = true := by
  rw [takeSome?] at took
  split at took
  · cases took
  · rename_i filled
    cases took
    rw [String.toList_ofList]
    refine ⟨fun empty => filled ?_, List.all_takeWhile⟩
    simpa using congrArg String.toList empty

/-- What a pattern reads off a line has the form that it asks for. -/
theorem spelled_of_recognised {pattern : Pattern} (member : pattern ∈ patterns)
    (recognised : pattern text = some kind) : kind.Spelled := by
  have word {test : Nat → Bool} {word : String} {fixed : LineKind}
      (recognised : wordPattern test word fixed text = some kind) (plain : fixed.Spelled) : kind.Spelled := by
    obtain ⟨_, rfl, _⟩ := wordPattern_eq_some.mp recognised
    exact plain
  simp only [patterns, keywordPatterns, List.cons_append, List.nil_append, List.mem_cons, List.not_mem_nil,
    or_false] at member
  rcases member with rfl | rfl | rfl | rfl | rfl | rfl | rfl | rfl | rfl | rfl | rfl | rfl | rfl
  · exact word recognised trivial
  · exact word recognised trivial
  · exact word recognised trivial
  · exact word recognised trivial
  · exact word recognised trivial
  · simp only [definePattern, Option.bind_eq_bind, Option.bind_eq_some_iff, Prod.exists] at recognised
    obtain ⟨_, _, name, _, took, _, _, ended⟩ := recognised
    split at ended
    · cases ended
      exact takeSome?_eq_some took
    · cases ended
  · simp only [branchPattern, Option.bind_eq_bind, Option.bind_eq_some_iff, Option.some.injEq] at recognised
    obtain ⟨_, _, condition, _, rfl⟩ := recognised
    trivial
  · exact word recognised trivial
  · simp only [loopPattern, Option.bind_eq_bind, Option.bind_eq_some_iff] at recognised
    obtain ⟨_, _, condition, _, ended⟩ := recognised
    split at ended
    · cases ended
      trivial
    · cases ended
  · simp only [iteratePattern, Option.bind_eq_bind, Option.bind_eq_some_iff, Prod.exists] at recognised
    obtain ⟨_, _, digits, _, took, _, _, ended⟩ := recognised
    split at ended
    · cases ended
      exact takeSome?_eq_some took
    · cases ended
  · exact word recognised trivial
  · simp only [closePattern, Option.bind_eq_bind, Option.bind_eq_some_iff] at recognised
    obtain ⟨_, _, ended⟩ := recognised
    split at ended
    · cases ended
      trivial
    · cases ended
  · simp only [statementPattern, Option.bind_eq_bind, Option.bind_eq_some_iff, Prod.exists] at recognised
    obtain ⟨_, _, name, _, took, ended⟩ := recognised
    split at ended
    · cases ended
      exact takeSome?_eq_some took
    · cases ended

/-- What a line carries has the form that its kind asks for. -/
theorem spelled_kindOf (text : List Char) : (kindOf text).Spelled := by
  rw [kindOf, kindBy]
  cases found : patterns.findSome? fun pattern => pattern text with
  | none => trivial
  | some kind =>
      obtain ⟨pattern, member, recognised⟩ := List.exists_of_findSome?_eq_some found
      exact spelled_of_recognised member recognised

/-- The order of the keyword patterns does not matter, since one of them at most recognises a line. -/
theorem findSome?_of_perm {order : List Pattern} (reordered : order.Perm keywordPatterns) :
    order.findSome? (fun pattern => pattern text) = keywordPatterns.findSome? fun pattern => pattern text := by
  cases found : keywordPatterns.findSome? fun pattern => pattern text with
  | none =>
      rw [List.findSome?_eq_none_iff] at found ⊢
      intro pattern member
      exact found pattern (reordered.mem_iff.mp member)
  | some kind =>
      obtain ⟨pattern, member, recognised⟩ := List.exists_of_findSome?_eq_some found
      apply findSome?_of_recognised _ (reordered.mem_iff.mpr member) recognised
      rw [reordered.countP_eq]
      exact countP_keywordPatterns_le_one text

end

/-- Every line has one kind. No two of the keyword patterns recognise the same text, so that only the place of the
statement, behind all of them, matters. The indent counts the tabs at the front; a statement has a name without blanks
and semicolons; a count has digits only, and is read as its value if they are not too many; and only statements and
closing lines are ever terminated. -/
theorem classification_is_unambiguous (text : String) :
    keywordPatterns.countP (fun pattern => (pattern text.toList).isSome) ≤ 1 ∧
    (∀ order : List Pattern, order.Perm keywordPatterns →
      (⟨text, kindBy (order ++ [statementPattern]) text.toList⟩ : Line) = classify text) ∧
    (∃ rest, text.toList = List.replicate (classify text).indent '\t' ++ rest ∧ rest.head? ≠ some '\t') ∧
    (∀ name terminated, (classify text).kind = .statement name terminated →
      name ≠ "" ∧ ∀ char ∈ name.toList, Text.isBlank char = false ∧ char ≠ ';') ∧
    (∀ digits, (classify text).kind = .iterate digits →
      digits ≠ "" ∧ (∀ char ∈ digits.toList, Text.isDigit char = true) ∧
        (digits.length ≤ 4300 → Numeral.integer digits = .ok (Numeral.valueOf digits.toList))) ∧
    ((classify text).kind.isTerminated = true →
      (classify text).kind = .closing true ∨ ∃ name, (classify text).kind = .statement name true) := by
  have spelled := spelled_kindOf text.toList
  refine ⟨countP_keywordPatterns_le_one _, ?_, ⟨body text.toList, indented_body _⟩, ?_, ?_, ?_⟩
  · intro order reordered
    rw [classify, kindOf, kindBy, kindBy, patterns, List.findSome?_append, List.findSome?_append,
      findSome?_of_perm reordered]
  · intro name terminated kind
    rw [show kindOf text.toList = .statement name terminated from kind] at spelled
    refine ⟨spelled.1, fun char member => ?_⟩
    have fine := List.all_eq_true.mp spelled.2 char member
    simpa [isNameChar] using fine
  · intro digits kind
    rw [show kindOf text.toList = .iterate digits from kind] at spelled
    exact ⟨spelled.1, List.all_eq_true.mp spelled.2, Numeral.integer_of_isDigit spelled.1 spelled.2⟩
  · intro terminated
    cases kind : (classify text).kind with
    | closing closed =>
        rw [kind] at terminated
        exact Or.inl (congrArg LineKind.closing terminated)
    | statement name closed =>
        rw [kind] at terminated
        exact Or.inr ⟨name, congrArg (LineKind.statement name) terminated⟩
    | _ =>
        rw [kind] at terminated
        cases terminated

theorem classification_is_unambiguous_loop :
    keywordPatterns.reverse.Perm keywordPatterns ∧
      (⟨"\t\tITERATE 1\u0663 TIMES\n",
          kindBy (keywordPatterns.reverse ++ [statementPattern]) "\t\tITERATE 1\u0663 TIMES\n".toList⟩ : Line) =
        classify "\t\tITERATE 1\u0663 TIMES\n" ∧
      Numeral.integer "1\u0663" = .ok (13 : Nat) := by
  have kind : (classify "\t\tITERATE 1\u0663 TIMES\n").kind = .iterate "1\u0663" := by decide +kernel
  obtain ⟨_, reordered, _, _, counts, _⟩ := classification_is_unambiguous "\t\tITERATE 1\u0663 TIMES\n"
  refine ⟨List.reverse_perm _, reordered _ (List.reverse_perm _), ?_⟩
  rw [(counts _ kind).2.2 (by decide), show Numeral.valueOf "1\u0663".toList = 13 by decide +kernel]

/-- A line that is printed is read as what was printed, also with one blank more behind it: headers with their
conditions, counts and names, and names as statements, but for the few lines of one word that have a kind of their
own. -/
theorem printed_line_reads_back (depth : Nat) (positive : 0 < depth) (tail : String) (short : tail.length ≤ 1)
    (blank : ∀ char ∈ tail.toList, Text.isBlank char = true) :
    (∀ condition, IsCondition condition →
      Prints depth ("IF " ++ condition ++ " THEN" ++ tail) (.branch condition) ∧
      Prints depth ("WHILE " ++ condition ++ " DO" ++ tail) (.loop condition)) ∧
    (∀ count : Nat, count.repr.length ≤ 4300 →
      Prints depth ("ITERATE " ++ count.repr ++ " TIMES" ++ tail) (.iterate count.repr) ∧
      Numeral.integer count.repr = .ok count ∧ Numeral.valueOf count.repr.toList = count) ∧
    (∀ name, IsWord name →
      Prints depth ("DEFINE-NEW-INSTRUCTION " ++ name ++ " AS" ++ tail) (.define name)) ∧
    ∀ name terminated, IsName name →
      (Prints depth (name ++ terminator terminated ++ tail) (.statement name terminated) ↔
        ¬ Reserves depth name terminated) := by
  have ends : isLineEnd tail.toList = true := by
    rw [← String.length_toList] at short
    match characters : tail.toList, short with
    | [], _ => rfl
    | [char], _ => exact blank char (by simp [characters])
  refine ⟨fun condition fine => ?_, fun count few => ?_, fun name word => ?_, fun name terminated named => ?_⟩
  · exact ⟨prints_branch_append positive fine ends, prints_loop_append positive fine ends⟩
  · have digits : count.repr.toList.all Text.isDigit = true := List.all_eq_true.mpr fun _ => Numeral.isDigit_repr
    refine ⟨prints_digits_append positive Numeral.repr_ne_empty digits ends, ?_, Numeral.valueOf_repr count⟩
    rw [Numeral.integer_of_isDigit Numeral.repr_ne_empty digits few, Numeral.valueOf_repr]
  · exact prints_define_append positive word ends
  · exact prints_statement_append positive named ends

theorem printed_line_reads_back_tricky :
    Prints 3 "IF a THEN THEN\u3000" (.branch "a THEN") ∧ Prints 3 "ITERATE 40 TIMES\u3000" (.iterate "40") ∧
      Prints 3 "DEFINE-NEW-INSTRUCTION go;on AS\u3000" (.define "go;on") ∧
      Prints 3 "turnoff\u3000" (.statement "turnoff" false) ∧ ¬ Prints 3 "ELSE\u3000" (.statement "ELSE" false) := by
  obtain ⟨conditions, counts, words, names⟩ := printed_line_reads_back 3 (by decide) "\u3000" (by decide)
    (List.all_eq_true.mp (by decide : "\u3000".toList.all Text.isBlank = true))
  refine ⟨(conditions "a THEN" (by decide)).1, (counts 40 (by decide)).1, words "go;on" (by decide),
    (names "turnoff" false (by decide)).mpr (by decide), ?_⟩
  rw [show "ELSE\u3000" = "ELSE" ++ terminator false ++ "\u3000" from rfl, names "ELSE" false (by decide)]
  decide

end Line

end GridRobot
