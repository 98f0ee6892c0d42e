import GridRobot.Proofs.Classification
import GridRobot.Proofs.Resemblance
import GridRobot.Report

namespace GridRobot

namespace Line

/-- Whether a text is empty or ends in a character that is no blank. -/
def isSolid (text : List Char) : Bool :=
  text.getLast?.all fun last => !Text.isBlank last

/-- A line that is kept as it is, or is given one blank more if it does not end in one; the blank is no tab. -/
inductive Pads (text : String) : String → Prop
  | kept : Pads text text
  | padded {char : Char} (solid : isSolid text.toList = true) (blank : Text.isBlank char = true)
      (other : char ≠ indentChar) : Pads text (text.push char)

/-- A pattern that does not notice a character behind a solid text. -/
def Pattern.Overlooks (char : Char) (pattern : Pattern) : Prop :=
  ∀ text, isSolid text = true → pattern (text ++ [char]) = pattern text

section
variable {text rest : List Char} {char : Char} {word : String} {test : Char → Bool}

theorem isSolid_of_suffix (ends : rest <:+ text) (solid : isSolid text = true) : isSolid rest = true := by
  obtain ⟨front, rfl⟩ := ends
  rw [isSolid, List.getLast?_append] at solid
  rw [isSolid]
  cases ending : rest.getLast? with
  | none => rfl
  | some last => rwa [ending, Option.some_or] at solid

/-- A line ends in front of one blank exactly if it ends there without the blank. -/
theorem isLineEnd_append (blank : Text.isBlank char = true) (solid : isSolid rest = true) :
    isLineEnd (rest ++ [char]) = isLineEnd rest := by
  match rest, solid with
  | [], _ => exact blank
  | [only], solid =>
      have plain : Text.isBlank only = false := by simpa [isSolid] using solid
      simp [isLineEnd, plain]
  | [first, last], solid =>
      -- Only a newline may stand behind a blank, and no solid text ends in one.
      have plain : Text.isBlank last = false := by simpa [isSolid] using solid
      have other : last ≠ '\n' := by
        rintro rfl
        revert plain
        decide
      simp [isLineEnd, other]
  | first :: second :: third :: others, _ => simp [isLineEnd]

theorem takeWhile_append_stop (stops : test char = false) :
    (text ++ [char]).takeWhile test = text.takeWhile test := by
  induction text with
  | nil => simp [stops]
  | cons first others inductionHypothesis => simp [List.takeWhile_cons, inductionHypothesis]

theorem dropWhile_append_stop (stops : test char = false) :
    (text ++ [char]).dropWhile test = text.dropWhile test ++ [char] := by
  induction text with
  | nil => simp [stops]
  | cons first others inductionHypothesis =>
      simp only [List.cons_append, List.dropWhile_cons, inductionHypothesis]
      split
      · rfl
      · rfl

theorem leadingIndent_append (other : char ≠ indentChar) : leadingIndent (text ++ [char]) = leadingIndent text := by
  rw [leadingIndent, takeWhile_append_stop (by simpa using other), leadingIndent]

theorem body_append (other : char ≠ indentChar) : body (text ++ [char]) = body text ++ [char] :=
  dropWhile_append_stop (by simpa using other)

theorem isSolid_body (solid : isSolid text = true) : isSolid (body text) = true :=
  isSolid_of_suffix (List.dropWhile_suffix _) solid

/-- A word that ends in front of the last character is found without that character too. -/
theorem afterWord?_append : afterWord? word (rest ++ [char]) =
    if word.toList = rest ++ [char] then some [] else (afterWord? word rest).map (· ++ [char]) := by
  split
  · rename_i whole
    exact afterWord?_eq_some.mpr (by rw [whole, List.append_nil])
  · rename_i shorter
    ext left
    simp only [Option.map_eq_some_iff, afterWord?_eq_some]
    constructor
    · intro padded
      rcases List.eq_nil_or_concat left with rfl | ⟨front, last, rfl⟩
      · exact absurd (by rw [padded, List.append_nil]) shorter
      · rw [List.concat_eq_append] at padded ⊢
        rw [← List.append_assoc] at padded
        obtain ⟨same, ends⟩ := List.append_inj' padded rfl
        exact ⟨front, same, by rw [ends]⟩
    · rintro ⟨front, rfl, rfl⟩
      exact List.append_assoc ..

theorem wordPattern_eq_bind (depth : Nat → Bool) (kind : LineKind) : wordPattern depth word kind text =
    if depth (leadingIndent text) then
      afterWord? word (body text) >>= fun rest => if isLineEnd rest then some kind else none
    else none := by
  rw [wordPattern]
  cases afterWord? word (body text) with
  | none => rfl
  | some rest => rfl

theorem takeSemicolon_append (blank : Text.isBlank char = true) :
    takeSemicolon (rest ++ [char]) = ((takeSemicolon rest).1, (takeSemicolon rest).2 ++ [char]) := by
  have other : char ≠ ';' := by
    rintro rfl
    revert blank
    decide
  rw [takeSemicolon.eq_def rest]
  split
  · rfl
  · rename_i plain
    cases rest with
    | nil => simp [takeSemicolon, other]
    | cons first others =>
        have start : first ≠ ';' := by
          rintro rfl
          exact plain _ rfl
        simp [takeSemicolon, start]

theorem takeSemicolon_suffix : (takeSemicolon rest).2 <:+ rest := by
  rw [takeSemicolon.eq_def]
  split
  · exact List.suffix_cons ..
  · exact List.suffix_rfl

theorem trimEnd_append_blank (blank : Text.isBlank char = true) :
    Text.trimEnd (text ++ [char]) = Text.trimEnd text := by
  rw [Text.trimEnd, List.reverse_append, List.reverse_singleton, List.singleton_append,
    List.dropWhile_cons_of_pos blank, Text.trimEnd]

theorem trailingBlanks_append_blank (blank : Text.isBlank char = true) :
    trailingBlanks (text ++ [char]) = trailingBlanks text ++ [char] := by
  rw [trailingBlanks, List.reverse_append, List.reverse_singleton, List.singleton_append,
    List.takeWhile_cons_of_pos blank, List.reverse_cons, trailingBlanks]

theorem trailingBlanks_suffix : trailingBlanks text <:+ text := by
  rw [trailingBlanks, ← List.reverse_prefix, List.reverse_reverse]
  exact List.takeWhile_prefix _

theorem trim_append_blank (blank : Text.isBlank char = true) : Text.trim (text ++ [char]) = Text.trim text := by
  rw [Text.trim, Text.trimStart, List.dropWhile_append]
  split
  · rename_i nothing
    rw [List.isEmpty_iff] at nothing
    rw [Text.trim, Text.trimStart, nothing, List.dropWhile_cons_of_pos blank, List.dropWhile_nil]
  · rw [trimEnd_append_blank blank, Text.trim, Text.trimStart]

end

namespace Pattern.Overlooks

variable {char : Char} {word : String} {next : Pattern}

theorem lineEnd (blank : Text.isBlank char = true) (kind : LineKind) :
    Overlooks char fun rest => if isLineEnd rest then some kind else none := by
  intro rest solid
  simp only [isLineEnd_append blank solid]

/-- A word in front is found without the blank too, unless the blank is the end of the word. -/
theorem afterWord (blank : Text.isBlank char = true) (closed : isSolid word.toList = true ∨ next [] = none)
    (overlooks : Overlooks char next) : Overlooks char fun rest => afterWord? word rest >>= next := by
  intro rest solid
  simp only [afterWord?_append]
  split
  · -- The blank completes the word, and nothing is left behind it.
    rename_i whole
    have shorter : afterWord? word rest = none := by
      rw [Option.eq_none_iff_forall_ne_some]
      intro left found
      have longer := congrArg List.length (afterWord?_eq_some.mp found)
      simp only [whole, List.length_append, List.length_singleton] at longer
      omega
    have spaced : isSolid word.toList = false := by simp [whole, isSolid, blank]
    simpa [shorter, spaced] using closed
  · cases found : afterWord? word rest with
    | none => rfl
    | some left =>
        obtain rfl := afterWord?_eq_some.mp found
        exact overlooks left (isSolid_of_suffix (List.suffix_append ..) solid)

theorem indentedBody (blank : Text.isBlank char = true) (other : char ≠ indentChar)
    (closed : isSolid word.toList = true ∨ next [] = none) (overlooks : Overlooks char next) :
    Overlooks char fun text => indentedBody? word text >>= next := by
  intro text solid
  have same := afterWord blank closed overlooks (body text) (isSolid_body solid)
  simp only [indentedBody?, leadingIndent_append other, body_append other]
  split
  · exact same
  · rfl

theorem takeSome {test : Char → Bool} {next : List Char × List Char → Option LineKind} (stops : test char = false)
    (overlooks : ∀ taken, Overlooks char fun rest => next (taken, rest)) :
    Overlooks char fun rest => takeSome? test rest >>= next := by
  intro rest solid
  simp only [takeSome?, takeWhile_append_stop stops, dropWhile_append_stop stops]
  cases rest.takeWhile test with
  | nil => rfl
  | cons first others =>
      exact overlooks (first :: others) _ (isSolid_of_suffix (List.dropWhile_suffix _) solid)

/-- The end of a line behind an optional semicolon. -/
theorem semicolon (blank : Text.isBlank char = true) (kind : Bool → LineKind) :
    Overlooks char fun rest =>
      if isLineEnd (takeSemicolon rest).2 then some (kind (takeSemicolon rest).1) else none := by
  intro rest solid
  simp only [takeSemicolon_append blank, isLineEnd_append blank (isSolid_of_suffix takeSemicolon_suffix solid)]

variable (blank : Text.isBlank char = true) (other : char ≠ indentChar)
include blank other

theorem wordPattern (test : Nat → Bool) (kind : LineKind) (closed : isSolid word.toList = true) :
    Overlooks char (wordPattern test word kind) := by
  intro text solid
  have same := afterWord blank (Or.inl closed) (lineEnd blank kind) (body text) (isSolid_body solid)
  simp only [wordPattern_eq_bind, leadingIndent_append other, body_append other]
  split
  · exact same
  · rfl

theorem definePattern : Overlooks char definePattern := by
  apply indentedBody blank other (Or.inr rfl)
  apply takeSome (by simp [blank])
  intro name
  apply afterWord blank (Or.inl (by decide))
  exact lineEnd blank _

theorem branchPattern : Overlooks char branchPattern := by
  apply indentedBody blank other (Or.inr rfl)
  intro rest solid
  simp only [trimEnd_append_blank blank]

theorem loopPattern : Overlooks char loopPattern := by
  apply indentedBody blank other (Or.inr rfl)
  intro rest solid
  have ends := isLineEnd_append blank (isSolid_of_suffix trailingBlanks_suffix solid)
  simp only [trimEnd_append_blank blank, trailingBlanks_append_blank blank, ends]

theorem iteratePattern : Overlooks char iteratePattern := by
  apply indentedBody blank other (Or.inr rfl)
  apply takeSome (isDigit_eq_false_of_isBlank blank)
  intro count
  apply afterWord blank (Or.inl (by decide))
  exact lineEnd blank _

theorem closePattern : Overlooks char closePattern := by
  apply indentedBody blank other (Or.inl (by decide))
  exact semicolon blank .closing

theorem statementPattern : Overlooks char statementPattern := by
  apply indentedBody blank other (Or.inl (by decide))
  apply takeSome (isNameChar_eq_false_of_isBlank blank)
  intro name
  exact semicolon blank (.statement (String.ofList name))

theorem of_mem_patterns {pattern : Pattern} (member : pattern ∈ patterns) : Overlooks char pattern := by
  simp only [patterns, keywordPatterns, List.cons_append, List.nil_append, List.mem_cons, List.not_mem_nil,
    or_false] at member
  rcases member with rfl | rfl | rfl | rfl | rfl | rfl | rfl | rfl | rfl | rfl | rfl | rfl | rfl
  · exact wordPattern blank other _ _ (by decide)
  · exact wordPattern blank other _ _ (by decide)
  · exact wordPattern blank other _ _ (by decide)
  · exact wordPattern blank other _ _ (by decide)
  · exact wordPattern blank other _ _ (by decide)
  · exact definePattern blank other
  · exact branchPattern blank other
  · exact wordPattern blank other _ _ (by decide)
  · exact loopPattern blank other
  · exact iteratePattern blank other
  · exact wordPattern blank other _ _ (by decide)
  · exact closePattern blank other
  · exact statementPattern blank other

end Pattern.Overlooks

section
variable {text : List Char} {char : Char}

theorem kindBy_append {order : List Pattern} (overlook : ∀ pattern ∈ order, pattern.Overlooks char)
    (solid : isSolid text = true) : kindBy order (text ++ [char]) = kindBy order text := by
  have answers : order.map (fun pattern => pattern (text ++ [char])) = order.map fun pattern => pattern text :=
    List.map_congr_left fun pattern member => overlook pattern member text solid
  have found := congrArg (List.findSome? id) answers
  rw [List.findSome?_map, List.findSome?_map] at found
  exact congrArg (Option.getD · .unknown) found

/-- A padded line is classified as the line was, and a blank more or less is not shown of it. -/
theorem Pads.resembles {text padded : String} (pads : Pads text padded) :
    (classify text).Resembles (classify padded) := by
  cases pads with
  | kept => exact ⟨rfl, rfl, rfl⟩
  | padded solid blank other =>
      simp only [classify, String.toList_push]
      constructor
      · exact (kindBy_append (fun _ => Pattern.Overlooks.of_mem_patterns blank other) solid).symm
      · simp only [indent, String.toList_push, leadingIndent_append other]
      · simp only [String.toList_push, trim_append_blank blank]

end

end Line

namespace Program

/-- One blank at the end of a line changes nothing: neither how the line is classified nor how the program runs. -/
theorem trailing_blank_changes_nothing (lines padded : List String) (pads : List.Forall₂ Line.Pads lines padded) :
    List.Forall₂ (fun line line' => line'.kind = line.kind ∧ line'.indent = line.indent ∧
        line'.kind.argument? = line.kind.argument? ∧ line'.kind.isTerminated = line.kind.isTerminated)
      (classify lines) (classify padded) ∧
    ∀ fuel world, (classify padded).run fuel world {} = (classify lines).run fuel world {} ∧
      Report.ofExecution ((classify padded).run fuel world {}) =
        Report.ofExecution ((classify lines).run fuel world {}) := by
  have alike : (classify lines).Resembles (classify padded) := by
    rw [Resembles, classify, classify, List.forall₂_map_left_iff, List.forall₂_map_right_iff]
    exact pads.imp fun _ _ => Line.Pads.resembles
  constructor
  · apply List.Forall₂.imp _ alike
    intro line line' same
    rw [same.kind, same.indent]
    exact ⟨rfl, rfl, rfl, rfl⟩
  · intro fuel world
    rw [alike.run_eq fuel world {}]
    exact ⟨rfl, rfl⟩

/-- A program that strays from the language on its seventh line. -/
def stray : List String :=
  ["BEGINNING-OF-PROGRAM", "\tBEGINNING-OF-EXECUTION", "\t\tIF facing-north THEN", "\t\tBEGIN", "\t\t\tWHILE",
    "\t\tEND;", "\t\tturn around", "\t\tturnoff", "\tEND-OF-EXECUTION", "END-OF-PROGRAM"]

/-- The same program with a blank of its own kind behind each line. -/
def strayPadded : List String :=
  List.zipWith String.push stray
    [' ', '\n', '\u2028', '\x0b', ' ', '\u00a0', '\u3000', '\x1c', '\r', '\u0085']

/-- Not even the blank that a keyword asks for makes a header of it. -/
theorem trailing_blank_changes_nothing_stray :
    List.Forall₂ Line.Pads stray strayPadded ∧
    (classify strayPadded).run 20 ⟨1, 1, ⟨⟨0, 0⟩, .east, 0⟩, [], [], 0⟩ {} =
      { world := ⟨1, 1, ⟨⟨0, 0⟩, .east, 0⟩, [], [], 0⟩
        registry := {}
        stop := some (.fault (.onLine (.unexpectedLine "turn around") 6)) } := by
  have pads : List.Forall₂ Line.Pads stray strayPadded := by
    repeat' first | exact .padded (by decide) (by decide) (by decide) | constructor
  refine ⟨pads, ?_⟩
  rw [((trailing_blank_changes_nothing _ _ pads).2 _ _).1]
  decide +kernel

end Program

end GridRobot
