import GridRobot.Program.Line

namespace GridRobot.Line

/-- Words behind a number of tabs. -/
def indented (depth : Nat) (words : List Char) : List Char :=
  List.replicate depth indentChar ++ words

/-- The characters of a name that a line starts with. -/
def keyword (text : List Char) : List Char :=
  (body text).takeWhile isNameChar

/-- The keywords in the order of their patterns. -/
def keywords : List String :=
  ["BEGINNING-OF-PROGRAM", "END-OF-PROGRAM", "BEGINNING-OF-EXECUTION", "END-OF-EXECUTION", "turnoff",
    "DEFINE-NEW-INSTRUCTION", "IF", "ELSE", "WHILE", "ITERATE", "BEGIN", "END"]

section
variable {depth : Nat} {words rest text : List Char} {word : String} {kind found : LineKind}
  {test : Nat → Bool}

theorem leadingIndent_indented (solid : words.head? ≠ some indentChar) :
    leadingIndent (indented depth words) = depth := by
  rw [leadingIndent, indented, List.takeWhile_append_of_pos (by simp)]
  cases words with
  | nil => simp
  | cons first others =>
      have other : first ≠ indentChar := by simpa using solid
      simp [other]

theorem body_indented (solid : words.head? ≠ some indentChar) : body (indented depth words) = words := by
  rw [body, indented, List.dropWhile_append_of_pos (by simp)]
  cases words with
  | nil => rfl
  | cons first others =>
      have other : first ≠ indentChar := by simpa using solid
      simp [other]

theorem afterWord?_eq_some : afterWord? word words = some rest ↔ words = word.toList ++ rest := by
  rw [afterWord?]
  by_cases starts : word.toList.isPrefixOf words = true
  · obtain ⟨tail, rfl⟩ := List.isPrefixOf_iff_prefix.mp starts
    simp [← String.length_toList]
  · rw [if_neg starts]
    simp only [reduceCtorEq, false_iff]
    rintro rfl
    simp at starts

theorem beforeWord?_append : beforeWord? word (words ++ word.toList) = some words := by
  have ends : word.toList.isSuffixOf (words ++ word.toList) = true := by simp [List.isSuffixOf_iff_suffix]
  rw [beforeWord?, if_pos ends]
  simp [← String.length_toList]

theorem isNameChar_eq_false_of_isBlank {char : Char} (blank : Text.isBlank char = true) :
    isNameChar char = false := by
  simp [isNameChar, blank]

/-- No name goes on where a line ends. -/
theorem takeWhile_isNameChar_of_isLineEnd (ends : isLineEnd rest = true) : rest.takeWhile isNameChar = [] := by
  match rest, ends with
  | [], _ => rfl
  | [char], blank => simp [isNameChar_eq_false_of_isBlank blank]
  | [char, last], both =>
      have blank : Text.isBlank char = true := by
        simp only [isLineEnd, Bool.and_eq_true] at both
        exact both.1
      simp [isNameChar_eq_false_of_isBlank blank]

/-- A line is recognised by its word if the word stands at its depth and the line ends behind it. -/
theorem wordPattern_eq_some : wordPattern test word kind text = some found ↔
    test (leadingIndent text) = true ∧ kind = found ∧
      ∃ rest, body text = word.toList ++ rest ∧ isLineEnd rest = true := by
  rw [wordPattern]
  constructor
  · intro recognised
    split at recognised
    · rename_i deep
      split at recognised
      · rename_i rest after
        split at recognised
        · rename_i ends
          exact ⟨deep, Option.some.inj recognised, rest, afterWord?_eq_some.mp after, ends⟩
        · cases recognised
      · cases recognised
    · cases recognised
  · rintro ⟨deep, rfl, rest, words, ends⟩
    simp only [deep, if_true, afterWord?_eq_some.mpr words, ends]

theorem indentedBody?_eq_some : indentedBody? word text = some rest ↔
    isIndented (leadingIndent text) = true ∧ body text = word.toList ++ rest := by
  rw [indentedBody?]
  split
  · rename_i deep
    simp only [deep, true_and, afterWord?_eq_some]
  · rename_i flat
    simp [flat]

/-- A line that is recognised by its word starts with it. -/
theorem keyword_of_wordPattern (name : word.toList.all isNameChar = true)
    (recognised : wordPattern test word kind text = some found) : keyword text = word.toList := by
  obtain ⟨_, _, rest, words, ends⟩ := wordPattern_eq_some.mp recognised
  rw [keyword, words, List.takeWhile_append_of_pos (List.all_eq_true.mp name),
    takeWhile_isNameChar_of_isLineEnd ends, List.append_nil]

/-- A line that is recognised by a word and a space starts with the word. -/
theorem keyword_of_header {name : String} {next : List Char → Option LineKind}
    (spaced : word.toList = name.toList ++ [' ']) (solid : name.toList.all isNameChar = true)
    (recognised : (indentedBody? word text >>= next) = some found) : keyword text = name.toList := by
  rw [Option.bind_eq_bind, Option.bind_eq_some_iff] at recognised
  obtain ⟨rest, started, _⟩ := recognised
  have space : isNameChar ' ' = false := by decide
  rw [keyword, (indentedBody?_eq_some.mp started).2, spaced, List.append_assoc,
    List.takeWhile_append_of_pos (List.all_eq_true.mp solid)]
  simp [space]

/-- No name goes on where a line ends behind an optional semicolon. -/
theorem takeWhile_isNameChar_of_takeSemicolon (ends : isLineEnd (takeSemicolon rest).2 = true) :
    rest.takeWhile isNameChar = [] := by
  rw [takeSemicolon.eq_def] at ends
  split at ends
  · have semicolon : isNameChar ';' = false := by decide
    simp [semicolon]
  · exact takeWhile_isNameChar_of_isLineEnd ends

theorem keyword_of_closePattern (recognised : closePattern text = some found) :
    keyword text = "END".toList := by
  simp only [closePattern, Option.bind_eq_bind, Option.bind_eq_some_iff] at recognised
  obtain ⟨rest, started, ended⟩ := recognised
  have ends : isLineEnd (takeSemicolon rest).2 = true := by
    split at ended
    · assumption
    · cases ended
  have solid : "END".toList.all isNameChar = true := by decide
  rw [keyword, (indentedBody?_eq_some.mp started).2, List.takeWhile_append_of_pos (List.all_eq_true.mp solid),
    takeWhile_isNameChar_of_takeSemicolon ends, List.append_nil]

/-- Each keyword pattern recognises only lines that start with its keyword. -/
theorem keyword_of_recognised : ∀ entry ∈ keywords.zip keywordPatterns, ∀ text kind,
    entry.2 text = some kind → keyword text = entry.1.toList := by
  rintro ⟨name, pattern⟩ member text kind recognised
  change keyword text = name.toList
  change pattern text = some kind at recognised
  simp only [keywords, keywordPatterns, List.zip_cons_cons, List.zip_nil_right, List.mem_cons,
    List.not_mem_nil, or_false, Prod.mk.injEq] at member
  rcases member with ⟨rfl, rfl⟩ | ⟨rfl, rfl⟩ | ⟨rfl, rfl⟩ | ⟨rfl, rfl⟩ | ⟨rfl, rfl⟩ | ⟨rfl, rfl⟩ | ⟨rfl, rfl⟩ |
    ⟨rfl, rfl⟩ | ⟨rfl, rfl⟩ | ⟨rfl, rfl⟩ | ⟨rfl, rfl⟩ | ⟨rfl, rfl⟩
  · exact keyword_of_wordPattern (by decide) recognised
  · exact keyword_of_wordPattern (by decide) recognised
  · exact keyword_of_wordPattern (by decide) recognised
  · exact keyword_of_wordPattern (by decide) recognised
  · exact keyword_of_wordPattern (by decide) recognised
  · exact keyword_of_header rfl (by decide) recognised
  · exact keyword_of_header rfl (by decide) recognised
  · exact keyword_of_wordPattern (by decide) recognised
  · exact keyword_of_header rfl (by decide) recognised
  · exact keyword_of_header rfl (by decide) recognised
  · exact keyword_of_wordPattern (by decide) recognised
  · exact keyword_of_closePattern recognised

/-- A line is recognised by one keyword pattern at most, since their keywords are different. -/
theorem countP_keywordPatterns_le_one (text : List Char) :
    keywordPatterns.countP (fun pattern => (pattern text).isSome) ≤ 1 := by
  obtain ⟨fitting, fits⟩ : ∃ fitting, fitting =
      (keywords.zip keywordPatterns).filter fun entry => (entry.2 text).isSome := ⟨_, rfl⟩
  have counted : keywordPatterns.countP (fun pattern => (pattern text).isSome) = fitting.length := by
    rw [fits, ← List.countP_eq_length_filter]
    exact (@List.countP_map _ _ (fun pattern : Pattern => (pattern text).isSome) Prod.snd
      (keywords.zip keywordPatterns))
  have named : ∀ name ∈ fitting.map Prod.fst, name = String.ofList (keyword text) := by
    intro name member
    obtain ⟨entry, inside, rfl⟩ := List.mem_map.mp member
    rw [fits] at inside
    obtain ⟨inTable, fit⟩ := List.mem_filter.mp inside
    obtain ⟨kind, recognised⟩ := Option.isSome_iff_exists.mp fit
    rw [keyword_of_recognised entry inTable text kind recognised, String.ofList_toList]
  have distinct : (fitting.map Prod.fst).Nodup := by
    rw [fits]
    exact (List.filter_sublist.map Prod.fst).nodup (by decide : keywords.Nodup)
  rw [List.eq_replicate_of_mem named, List.nodup_replicate, List.length_map] at distinct
  rw [counted]
  exact distinct

/-- Where one pattern at most recognises a line, any that does is the first one. -/
theorem findSome?_of_recognised {order : List Pattern} {pattern : Pattern}
    (alone : order.countP (fun pattern => (pattern text).isSome) ≤ 1) (member : pattern ∈ order)
    (recognised : pattern text = some kind) : order.findSome? (fun pattern => pattern text) = some kind := by
  induction order with
  | nil => cases member
  | cons first others inductionHypothesis =>
      rw [List.findSome?_cons]
      cases fit : first text with
      | none =>
          rcases List.mem_cons.mp member with rfl | later
          · rw [recognised] at fit
            cases fit
          · rw [List.countP_cons_of_neg (by simp [fit])] at alone
            exact inductionHypothesis alone later
      | some found =>
          rw [List.countP_cons_of_pos (by simp [fit])] at alone
          rcases List.mem_cons.mp member with rfl | later
          · exact fit.symm.trans recognised
          · have counted : 0 < others.countP fun pattern => (pattern text).isSome :=
              List.countP_pos_iff.mpr ⟨pattern, later, by simp [recognised]⟩
            omega

/-- A line has the kind that any keyword pattern gives it. -/
theorem kindOf_of_keyword {pattern : Pattern} (member : pattern ∈ keywordPatterns)
    (recognised : pattern text = some kind) : kindOf text = kind := by
  rw [kindOf, kindBy, patterns, List.findSome?_append,
    findSome?_of_recognised (countP_keywordPatterns_le_one text) member recognised]
  rfl

/-- A line does not start with a tab if it starts with a word that does not. -/
theorem head?_append_ne (filled : words ≠ []) (solid : words.head? ≠ some indentChar) :
    (words ++ rest).head? ≠ some indentChar := by
  cases words with
  | nil => exact absurd rfl filled
  | cons first others => exact solid

/-- A line with one of the fixed words has the kind of the word. -/
theorem kindOf_word (member : wordPattern test word kind ∈ keywordPatterns) (deep : test depth = true)
    (filled : word.toList ≠ []) (solid : word.toList.head? ≠ some indentChar) (ends : isLineEnd rest = true) :
    kindOf (indented depth (word.toList ++ rest)) = kind := by
  apply kindOf_of_keyword member
  have solid' := @head?_append_ne word.toList rest filled solid
  exact wordPattern_eq_some.mpr ⟨by rwa [leadingIndent_indented solid'], rfl, rest, body_indented solid', ends⟩

/-- The body of an indented line is what stands behind its tabs. -/
theorem indentedBody?_indented (positive : 0 < depth) (filled : word.toList ≠ [])
    (solid : word.toList.head? ≠ some indentChar) :
    indentedBody? word (indented depth (word.toList ++ rest)) = some rest := by
  have solid' := @head?_append_ne word.toList rest filled solid
  rw [indentedBody?_eq_some, leadingIndent_indented solid', body_indented solid']
  exact ⟨decide_eq_true positive, rfl⟩

/-- Characters that pass a test are taken up to one that does not. -/
theorem takeSome?_append {test : Char → Bool} {taken : List Char} (filled : taken ≠ [])
    (passed : taken.all test = true) (stopped : rest.takeWhile test = []) :
    takeSome? test (taken ++ rest) = some (taken, rest) := by
  rw [List.all_eq_true] at passed
  have kept : rest.dropWhile test = rest := by
    have whole := List.takeWhile_append_dropWhile (p := test) (l := rest)
    rw [stopped] at whole
    exact whole
  have all : (taken ++ rest).takeWhile test = taken := by
    rw [List.takeWhile_append_of_pos passed, stopped, List.append_nil]
  have left : (taken ++ rest).dropWhile test = rest := by
    rw [List.dropWhile_append_of_pos passed, kept]
  rw [takeSome?, all, left]
  cases taken with
  | nil => exact absurd rfl filled
  | cons first others => rfl

/-- Words have characters, none of them blank. -/
def IsWord (name : String) : Prop :=
  name ≠ "" ∧ (name.toList.all fun char => !Text.isBlank char) = true

instance (name : String) : Decidable (IsWord name) := inferInstanceAs (Decidable (_ ∧ _))

/-- Names have characters, none of them blank or a semicolon. -/
def IsName (name : String) : Prop :=
  name ≠ "" ∧ name.toList.all isNameChar = true

instance (name : String) : Decidable (IsName name) := inferInstanceAs (Decidable (_ ∧ _))

/-- A name is a word without semicolons. -/
theorem isName_iff {name : String} : IsName name ↔ IsWord name ∧ ';' ∉ name.toList := by
  simp only [IsName, IsWord, List.all_eq_true, isNameChar, Bool.and_eq_true, decide_eq_true_eq]
  constructor
  · rintro ⟨filled, fine⟩
    exact ⟨⟨filled, fun char inside => (fine char inside).1⟩, fun inside => (fine _ inside).2 rfl⟩
  · rintro ⟨⟨filled, solid⟩, free⟩
    exact ⟨filled, fun char inside => ⟨solid char inside, fun same => free (same ▸ inside)⟩⟩

/-- A word does not start with a tab. -/
theorem IsWord.head?_ne {name : String} (word : IsWord name) :
    name.toList ≠ [] ∧ name.toList.head? ≠ some indentChar := by
  refine ⟨fun empty => word.1 (String.toList_eq_nil_iff.mp empty), fun starts => ?_⟩
  have fine := List.all_eq_true.mp word.2 _ (List.mem_of_head? starts)
  revert fine
  decide

/-- Conditions have characters, no newline among them, and no blanks around them. -/
def IsCondition (condition : String) : Prop :=
  condition ≠ "" ∧ '\n' ∉ condition.toList ∧ Text.trim condition.toList = condition.toList

instance (condition : String) : Decidable (IsCondition condition) := inferInstanceAs (Decidable (_ ∧ _))

/-- A header that defines an instruction carries its name. -/
theorem kindOf_define {name : String} (positive : 0 < depth) (solid : IsWord name) (ends : isLineEnd rest = true) :
    kindOf (indented depth ("DEFINE-NEW-INSTRUCTION ".toList ++ (name.toList ++ (" AS".toList ++ rest)))) =
      .define name := by
  apply kindOf_of_keyword (show definePattern ∈ keywordPatterns by simp [keywordPatterns])
  have started : indentedBody? "DEFINE-NEW-INSTRUCTION "
      (indented depth ("DEFINE-NEW-INSTRUCTION ".toList ++ (name.toList ++ (" AS".toList ++ rest)))) =
        some (name.toList ++ (" AS".toList ++ rest)) :=
    indentedBody?_indented positive (by decide) (by decide)
  have stopped : (" AS".toList ++ rest).takeWhile (fun char => !Text.isBlank char) = [] := by
    have space : Text.isBlank ' ' = true := by decide
    simp [space]
  have taken : takeSome? (fun char => !Text.isBlank char) (name.toList ++ (" AS".toList ++ rest)) =
      some (name.toList, " AS".toList ++ rest) := takeSome?_append solid.head?_ne.1 solid.2 stopped
  have ended : afterWord? " AS" (" AS".toList ++ rest) = some rest := afterWord?_eq_some.mpr rfl
  rw [definePattern, started]
  simp only [Option.bind_eq_bind, Option.bind_some, taken, ended, ends, if_true, String.ofList_toList]

/-- The condition between two words is the text between them. -/
theorem condition?_append {condition : String} (fine : IsCondition condition) :
    condition? word (condition.toList ++ word.toList) = some condition := by
  obtain ⟨filled, oneLine, trimmed⟩ := fine
  have filled' : condition.toList ≠ [] := fun empty => filled (String.toList_eq_nil_iff.mp empty)
  rw [condition?, beforeWord?_append]
  simp [filled', oneLine, trimmed]

/-- What stands at the end of a line is blank. -/
theorem all_isBlank_of_isLineEnd (ends : isLineEnd rest = true) : rest.all Text.isBlank = true := by
  match rest, ends with
  | [], _ => rfl
  | [char], blank => simpa [isLineEnd] using blank
  | [char, last], both =>
      simp only [isLineEnd, Bool.and_eq_true, decide_eq_true_eq] at both
      obtain ⟨blank, rfl⟩ := both
      have newline : Text.isBlank '\n' = true := by decide
      simp [blank, newline]

/-- Exactly the blanks behind a solid character are trimmed. -/
theorem trimEnd_append {last : Char} (solid : Text.isBlank last = false) (ends : words.getLast? = some last)
    (blank : rest.all Text.isBlank = true) :
    Text.trimEnd (words ++ rest) = words ∧ trailingBlanks (words ++ rest) = rest := by
  obtain ⟨front, rfl⟩ := List.getLast?_eq_some_iff.mp ends
  have blanks : ∀ char ∈ rest.reverse, Text.isBlank char = true := by
    intro char inside
    exact List.all_eq_true.mp blank char (List.mem_reverse.mp inside)
  have reversed : (front ++ [last] ++ rest).reverse = rest.reverse ++ (last :: front.reverse) := by simp
  rw [Text.trimEnd, trailingBlanks, reversed, List.dropWhile_append_of_pos blanks,
    List.takeWhile_append_of_pos blanks]
  simp [solid]

/-- The header of a branch carries its condition. -/
theorem kindOf_branch {condition : String} (positive : 0 < depth) (fine : IsCondition condition)
    (ends : isLineEnd rest = true) :
    kindOf (indented depth ("IF ".toList ++ (condition.toList ++ (" THEN".toList ++ rest)))) = .branch condition := by
  rw [← List.append_assoc condition.toList]
  apply kindOf_of_keyword (show branchPattern ∈ keywordPatterns by simp [keywordPatterns])
  have started : indentedBody? "IF "
      (indented depth ("IF ".toList ++ (condition.toList ++ " THEN".toList ++ rest))) =
        some (condition.toList ++ " THEN".toList ++ rest) := indentedBody?_indented positive (by decide) (by decide)
  have trimmed : Text.trimEnd (condition.toList ++ " THEN".toList ++ rest) = condition.toList ++ " THEN".toList :=
    (trimEnd_append (by decide : Text.isBlank 'N' = false) (by simp) (all_isBlank_of_isLineEnd ends)).1
  rw [branchPattern, started]
  simp only [Option.bind_eq_bind, Option.bind_some, trimmed, condition?_append fine]

/-- The header of a loop carries its condition. -/
theorem kindOf_loop {condition : String} (positive : 0 < depth) (fine : IsCondition condition)
    (ends : isLineEnd rest = true) :
    kindOf (indented depth ("WHILE ".toList ++ (condition.toList ++ (" DO".toList ++ rest)))) = .loop condition := by
  rw [← List.append_assoc condition.toList]
  apply kindOf_of_keyword (show loopPattern ∈ keywordPatterns by simp [keywordPatterns])
  have started : indentedBody? "WHILE "
      (indented depth ("WHILE ".toList ++ (condition.toList ++ " DO".toList ++ rest))) =
        some (condition.toList ++ " DO".toList ++ rest) := indentedBody?_indented positive (by decide) (by decide)
  have trimmed : Text.trimEnd (condition.toList ++ " DO".toList ++ rest) = condition.toList ++ " DO".toList ∧
      trailingBlanks (condition.toList ++ " DO".toList ++ rest) = rest :=
    trimEnd_append (by decide : Text.isBlank 'O' = false) (by simp) (all_isBlank_of_isLineEnd ends)
  rw [loopPattern, started]
  simp only [Option.bind_eq_bind, Option.bind_some, trimmed.1, trimmed.2, condition?_append fine, ends, if_true]

/-- The header of a counted loop carries its count. -/
theorem kindOf_iterate {digits : String} (positive : 0 < depth) (filled : digits ≠ "")
    (numeral : digits.toList.all Text.isDigit = true) (ends : isLineEnd rest = true) :
    kindOf (indented depth ("ITERATE ".toList ++ (digits.toList ++ (" TIMES".toList ++ rest)))) =
      .iterate digits := by
  apply kindOf_of_keyword (show iteratePattern ∈ keywordPatterns by simp [keywordPatterns])
  have started : indentedBody? "ITERATE "
      (indented depth ("ITERATE ".toList ++ (digits.toList ++ (" TIMES".toList ++ rest)))) =
        some (digits.toList ++ (" TIMES".toList ++ rest)) :=
    indentedBody?_indented positive (by decide) (by decide)
  have stopped : (" TIMES".toList ++ rest).takeWhile Text.isDigit = [] := by
    have space : Text.isDigit ' ' = false := by decide
    simp [space]
  have taken : takeSome? Text.isDigit (digits.toList ++ (" TIMES".toList ++ rest)) =
      some (digits.toList, " TIMES".toList ++ rest) :=
    takeSome?_append (fun empty => filled (String.toList_eq_nil_iff.mp empty)) numeral stopped
  have ended : afterWord? " TIMES" (" TIMES".toList ++ rest) = some rest := afterWord?_eq_some.mpr rfl
  rw [iteratePattern, started]
  simp only [Option.bind_eq_bind, Option.bind_some, taken, ended, ends, if_true, String.ofList_toList]

/-- The semicolon of a line that is terminated. -/
def terminator (terminated : Bool) : String :=
  if terminated then ";" else ""

/-- A semicolon is what decides whether a line is terminated, since none stands at the end of a line. -/
theorem takeSemicolon_terminator (terminated : Bool) (ends : isLineEnd rest = true) :
    takeSemicolon ((terminator terminated).toList ++ rest) = (terminated, rest) := by
  cases terminated with
  | true => rfl
  | false =>
      show takeSemicolon rest = (false, rest)
      rw [takeSemicolon.eq_def]
      split
      · rename_i others
        have blank := all_isBlank_of_isLineEnd ends
        have semicolon : Text.isBlank ';' = false := by decide
        simp [semicolon] at blank
      · rfl

/-- No name goes on behind a semicolon or at the end of a line. -/
theorem takeWhile_isNameChar_terminator (terminated : Bool) (ends : isLineEnd rest = true) :
    ((terminator terminated).toList ++ rest).takeWhile isNameChar = [] := by
  apply takeWhile_isNameChar_of_takeSemicolon
  rw [takeSemicolon_terminator terminated ends]
  exact ends

/-- A closing line is terminated if it has a semicolon. -/
theorem kindOf_closing (positive : 0 < depth) (terminated : Bool) (ends : isLineEnd rest = true) :
    kindOf (indented depth ("END".toList ++ ((terminator terminated).toList ++ rest))) = .closing terminated := by
  apply kindOf_of_keyword (show closePattern ∈ keywordPatterns by simp [keywordPatterns])
  have started : indentedBody? "END"
      (indented depth ("END".toList ++ ((terminator terminated).toList ++ rest))) =
        some ((terminator terminated).toList ++ rest) := indentedBody?_indented positive (by decide) (by decide)
  rw [closePattern, started]
  simp only [Option.bind_eq_bind, Option.bind_some, takeSemicolon_terminator terminated ends, ends, if_true]

/-- The names of lines that are no statements at the depth of a statement. -/
def reserved : List String := ["BEGIN", "END", "ELSE", "turnoff"]

/-- The lines of one name that are more than a bare statement. -/
def Reserves (depth : Nat) (name : String) (terminated : Bool) : Prop :=
  name = "END" ∨ terminated = false ∧ (name ∈ ["BEGIN", "ELSE"] ∨ depth = 2 ∧ name = "turnoff" ∨
    depth = 1 ∧ name ∈ ["BEGINNING-OF-EXECUTION", "END-OF-EXECUTION"])

instance (depth : Nat) (name : String) (terminated : Bool) : Decidable (Reserves depth name terminated) :=
  inferInstanceAs (Decidable (_ ∨ _))

/-- No digit is blank. -/
theorem isDigit_eq_false_of_isBlank {char : Char} (blank : Text.isBlank char = true) : Text.isDigit char = false := by
  have apart : ∀ origin ∈ Text.zeroDigits, ∀ range ∈ Text.blankRanges,
      origin + 10 ≤ range.1 ∨ range.2 < origin := by decide +kernel
  obtain ⟨range, listed, inside⟩ := List.any_eq_true.mp blank
  simp only [Bool.and_eq_true, decide_eq_true_eq] at inside
  rw [Text.isDigit, Text.digitValue?, Option.isSome_map, Option.isSome_eq_false_iff,
    Option.isNone_iff_eq_none, List.find?_eq_none]
  intro origin member within
  simp only [Bool.and_eq_true, decide_eq_true_eq] at within
  have separate := apart origin member range listed
  omega

/-- Where only blanks are left, no character that is not blank is taken. -/
theorem takeSome?_of_blank {test : Char → Bool} (strange : ∀ char, Text.isBlank char = true → test char = false)
    (blank : rest.all Text.isBlank = true) : takeSome? test rest = none := by
  cases rest with
  | nil => rfl
  | cons first others =>
      rw [List.all_cons, Bool.and_eq_true] at blank
      rw [takeSome?, List.takeWhile_cons_of_neg (by simp [strange first blank.1])]

/-- Where only blanks are left, there is no condition. -/
theorem condition?_of_blank (filled : word.toList ≠ []) (blank : rest.all Text.isBlank = true) :
    condition? word (Text.trimEnd rest) = none := by
  have trimmed : Text.trimEnd rest = [] := by
    have blanks : ∀ char ∈ rest.reverse, Text.isBlank char = true := by
      intro char inside
      exact List.all_eq_true.mp blank char (List.mem_reverse.mp inside)
    rw [Text.trimEnd, ← List.append_nil rest.reverse, List.dropWhile_append_of_pos blanks]
    rfl
  have unended : word.toList.isSuffixOf [] = false := by
    rw [Bool.eq_false_iff, ne_eq, List.isSuffixOf_iff_suffix, List.suffix_nil]
    exact filled
  rw [trimmed, condition?, beforeWord?, unended]
  rfl

/-- The text is one name, a semicolon if it is terminated, and the end of a line. -/
structure IsBare (name : String) (terminated : Bool) (rest text : List Char) : Prop where
  named : IsName name
  ends : isLineEnd rest = true
  words : body text = name.toList ++ ((terminator terminated).toList ++ rest)

section
variable {name : String} {terminated : Bool}

theorem IsBare.of_indented (named : IsName name) (ends : isLineEnd rest = true) :
    IsBare name terminated rest (indented depth (name.toList ++ ((terminator terminated).toList ++ rest))) ∧
      leadingIndent (indented depth (name.toList ++ ((terminator terminated).toList ++ rest))) = depth := by
  obtain ⟨filled, solid⟩ := (isName_iff.mp named).1.head?_ne
  have solid' := @head?_append_ne _ ((terminator terminated).toList ++ rest) filled solid
  exact ⟨⟨named, ends, body_indented solid'⟩, leadingIndent_indented solid'⟩

theorem IsBare.keyword_eq (bare : IsBare name terminated rest text) : keyword text = name.toList := by
  rw [keyword, bare.words, List.takeWhile_append_of_pos (List.all_eq_true.mp bare.named.2),
    takeWhile_isNameChar_terminator terminated bare.ends, List.append_nil]

/-- What follows the name that a line starts with. -/
theorem IsBare.rest_eq {more : List Char} (bare : IsBare name terminated rest text)
    (starts : keyword text = word.toList) (words : body text = word.toList ++ more) :
    word = name ∧ more = (terminator terminated).toList ++ rest := by
  have same : word = name := String.toList_inj.mp (starts.symm.trans bare.keyword_eq)
  subst same
  exact ⟨rfl, List.append_cancel_left (words.symm.trans bare.words)⟩

/-- A line of one name has a fixed word if the name is the word, at the right depth and without a semicolon. -/
theorem IsBare.of_wordPattern (bare : IsBare name terminated rest text) (solid : word.toList.all isNameChar = true)
    (recognised : wordPattern test word kind text = some found) :
    word = name ∧ terminated = false ∧ test (leadingIndent text) = true := by
  obtain ⟨deep, _, more, words, ends⟩ := wordPattern_eq_some.mp recognised
  obtain ⟨same, rfl⟩ := bare.rest_eq (keyword_of_wordPattern solid recognised) words
  refine ⟨same, ?_, deep⟩
  cases terminated with
  | false => rfl
  | true =>
      have blank := all_isBlank_of_isLineEnd ends
      have semicolon : Text.isBlank ';' = false := by decide
      simp [terminator, semicolon] at blank

/-- A line of one name is no header, since nothing but blanks can stand behind the space of the header. -/
theorem IsBare.header_eq_none {next : List Char → Option LineKind} (bare : IsBare name terminated rest text)
    (header : String) (spaced : word.toList = header.toList ++ [' '])
    (solid : header.toList.all isNameChar = true)
    (idle : ∀ more, more.all Text.isBlank = true → next more = none) :
    (indentedBody? word text >>= next) = none := by
  rw [Option.eq_none_iff_forall_ne_some]
  intro found recognised
  have starts := keyword_of_header spaced solid recognised
  rw [Option.bind_eq_bind, Option.bind_eq_some_iff] at recognised
  obtain ⟨more, started, finished⟩ := recognised
  have words := (indentedBody?_eq_some.mp started).2
  rw [spaced, List.append_assoc, List.singleton_append] at words
  obtain ⟨_, after⟩ := bare.rest_eq starts words
  have blank : more.all Text.isBlank = true := by
    cases terminated with
    | false =>
        have blank := all_isBlank_of_isLineEnd bare.ends
        rw [show rest = ' ' :: more from after.symm, List.all_cons, Bool.and_eq_true] at blank
        exact blank.2
    | true => cases after
  rw [idle more blank] at finished
  cases finished

/-- A line of one name that is not reserved has no keyword. -/
theorem IsBare.findSome?_eq_none (bare : IsBare name terminated rest text) (positive : 0 < leadingIndent text)
    (free : ¬ Reserves (leadingIndent text) name terminated) :
    keywordPatterns.findSome? (fun pattern => pattern text) = none := by
  have other (word : String) (kind : LineKind) (test : Nat → Bool) (solid : word.toList.all isNameChar = true)
      (reserves : terminated = false → test (leadingIndent text) = true →
        Reserves (leadingIndent text) word terminated) : wordPattern test word kind text = none := by
    rw [Option.eq_none_iff_forall_ne_some]
    intro found recognised
    obtain ⟨rfl, bare, deep⟩ := bare.of_wordPattern solid recognised
    exact free (reserves bare deep)
  have flat (word : String) (kind : LineKind) : wordPattern (· = 0) word kind text = none := by
    rw [wordPattern, if_neg (by simp only [decide_eq_true_eq]; omega)]
  have unclosed : closePattern text = none := by
    rw [Option.eq_none_iff_forall_ne_some]
    intro found recognised
    have same := bare.keyword_eq.symm.trans (keyword_of_closePattern recognised)
    exact free (Or.inl (String.toList_inj.mp same))
  have solid (char : Char) (blank : Text.isBlank char = true) : (!Text.isBlank char) = false := by
    rw [blank]
    rfl
  rw [List.findSome?_eq_none_iff]
  intro pattern member
  simp only [keywordPatterns, List.mem_cons, List.not_mem_nil, or_false] at member
  rcases member with rfl | rfl | rfl | rfl | rfl | rfl | rfl | rfl | rfl | rfl | rfl | rfl
  · exact flat _ _
  · exact flat _ _
  · exact other _ _ _ (by decide) fun bare deep => Or.inr ⟨bare, by simp_all⟩
  · exact other _ _ _ (by decide) fun bare deep => Or.inr ⟨bare, by simp_all⟩
  · exact other _ _ _ (by decide) fun bare deep => Or.inr ⟨bare, by simp_all⟩
  · refine bare.header_eq_none "DEFINE-NEW-INSTRUCTION" rfl (by decide) fun more blank => ?_
    rw [takeSome?_of_blank solid blank]
    rfl
  · refine bare.header_eq_none "IF" rfl (by decide) fun more blank => ?_
    rw [condition?_of_blank (by decide) blank]
    rfl
  · exact other _ _ _ (by decide) fun bare deep => Or.inr ⟨bare, by simp⟩
  · refine bare.header_eq_none "WHILE" rfl (by decide) fun more blank => ?_
    rw [condition?_of_blank (by decide) blank]
    rfl
  · refine bare.header_eq_none "ITERATE" rfl (by decide) fun more blank => ?_
    rw [takeSome?_of_blank (fun char => isDigit_eq_false_of_isBlank) blank]
    rfl
  · exact other _ _ _ (by decide) fun bare deep => Or.inr ⟨bare, by simp⟩
  · exact unclosed

/-- A line of one name is a statement exactly if it is not reserved, and then it is terminated if it has a
semicolon. -/
theorem kindOf_eq_statement_iff (positive : 0 < depth) (named : IsName name) (ends : isLineEnd rest = true) :
    kindOf (indented depth (name.toList ++ ((terminator terminated).toList ++ rest))) =
      .statement name terminated ↔ ¬ Reserves depth name terminated := by
  constructor
  · rintro recognised (rfl | ⟨rfl, reserves⟩)
    · rw [kindOf_closing positive terminated ends] at recognised
      cases recognised
    · have marked (word : String) (kind : LineKind) (test : Nat → Bool)
          (member : wordPattern test word kind ∈ keywordPatterns) (deep : test depth = true)
          (filled : word.toList ≠ []) (solid : word.toList.head? ≠ some indentChar) :
          kindOf (indented depth (word.toList ++ ((terminator false).toList ++ rest))) = kind :=
        kindOf_word member deep filled solid ends
      simp only [List.mem_cons, List.not_mem_nil, or_false] at reserves
      rcases reserves with (rfl | rfl) | ⟨rfl, rfl⟩ | ⟨rfl, rfl | rfl⟩
      · rw [marked "BEGIN" .opening isIndented (by simp [keywordPatterns]) (decide_eq_true positive) (by decide)
          (by decide)] at recognised
        cases recognised
      · rw [marked "ELSE" .otherwise isIndented (by simp [keywordPatterns]) (decide_eq_true positive) (by decide)
          (by decide)] at recognised
        cases recognised
      · rw [marked "turnoff" .turnoff (· = 2) (by simp [keywordPatterns]) rfl (by decide) (by decide)] at recognised
        cases recognised
      · rw [marked "BEGINNING-OF-EXECUTION" .executionStart (· = 1) (by simp [keywordPatterns]) rfl (by decide)
          (by decide)] at recognised
        cases recognised
      · rw [marked "END-OF-EXECUTION" .executionEnd (· = 1) (by simp [keywordPatterns]) rfl (by decide)
          (by decide)] at recognised
        cases recognised
  · intro free
    obtain ⟨bare, deep⟩ := @IsBare.of_indented depth rest name terminated named ends
    have started : indentedBody? "" (indented depth (name.toList ++ ((terminator terminated).toList ++ rest))) =
        some (name.toList ++ ((terminator terminated).toList ++ rest)) := by
      rw [indentedBody?_eq_some, deep, bare.words]
      exact ⟨decide_eq_true positive, rfl⟩
    have taken := takeSome?_append (isName_iff.mp named).1.head?_ne.1 named.2
      (takeWhile_isNameChar_terminator terminated ends)
    rw [kindOf, kindBy, patterns, List.findSome?_append,
      bare.findSome?_eq_none (by rw [deep]; exact positive) (by rw [deep]; exact free), Option.none_or,
      List.findSome?_singleton, statementPattern, started]
    simp only [Option.bind_eq_bind, Option.bind_some, taken, takeSemicolon_terminator terminated ends, ends,
      if_true, String.ofList_toList, Option.getD_some]

end

end

end GridRobot.Line
