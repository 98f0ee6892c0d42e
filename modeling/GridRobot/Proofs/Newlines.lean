import GridRobot.FileTree
import GridRobot.Proofs.Splitting
import Mathlib.Data.List.TakeWhile

namespace GridRobot.Text

/-- The eleven forms of a line's end: a line break, or a carriage return and the line feed after it. -/
inductive LineEnding : List Char → Prop
  | single {char : Char} (breaks : isLineBreak char = true) : LineEnding [char]
  | pair : LineEnding ['\r', '\n']

/-- A text is made of lines: each of them is ended, apart from a last one that has characters. A carriage return ends
a line on its own only if no line feed follows. -/
inductive MadeOf : List Char → List (List Char) → Prop
  | nothing : MadeOf [] []
  | unended {line : List Char} (filled : line ≠ []) (plain : ∀ char ∈ line, isLineBreak char = false) :
      MadeOf line [line]
  | ended {line ending rest : List Char} {lines : List (List Char)}
      (plain : ∀ char ∈ line, isLineBreak char = false) (ends : LineEnding ending)
      (whole : ending = ['\r'] → rest.head? ≠ some '\n') (made : MadeOf rest lines) :
      MadeOf (line ++ ending ++ rest) (line :: lines)

/-- Writes one text for another, from the front on and wherever it stands. -/
def replaceAll (old new : List Char) : List Char → List Char
  | [] => []
  | char :: rest =>
    if old.isPrefixOf (char :: rest) then new ++ replaceAll old new (rest.drop (old.length - 1))
    else char :: replaceAll old new rest
termination_by text => text.length
decreasing_by
  · rw [List.length_drop, List.length_cons]
    omega
  · rw [List.length_cons]
    omega

/-- Writes first every pair of carriage return and line feed and then every carriage return that is left as a line
feed. -/
def withLineFeeds (text : List Char) : List Char :=
  replaceAll ['\r'] ['\n'] (replaceAll ['\r', '\n'] ['\n'] text)

section
variable {text line ending rest breaks : List Char} {lines : List (List Char)}

/-- At its end the current line is done. -/
theorem splitLinesFrom_ending (ends : LineEnding ending) (whole : ending = ['\r'] → rest.head? ≠ some '\n')
    (current : List Char) :
    splitLinesFrom current (ending ++ rest) = current.reverse :: splitLinesFrom [] rest := by
  cases ends with
  | pair => rw [List.cons_append, List.cons_append, List.nil_append, splitLinesFrom_pair]
  | @single char breaks =>
      rw [List.singleton_append, splitLinesFrom_single, if_pos breaks]
      rintro rfl
      exact whole rfl

/-- Every text is made of the lines that it is split into. -/
theorem madeOf_splitLinesFrom {current : List Char} (plain : ∀ char ∈ current, isLineBreak char = false) :
    MadeOf (current.reverse ++ text) (splitLinesFrom current text) := by
  have reversed (current : List Char) (plain : ∀ char ∈ current, isLineBreak char = false) :
      ∀ char ∈ current.reverse, isLineBreak char = false := by
    intro char member
    exact plain char (List.mem_reverse.mp member)
  fun_induction splitLinesFrom current text with
  | case1 => exact .nothing
  | case2 current filled =>
      rw [List.append_nil]
      apply MadeOf.unended _ (reversed current plain)
      rw [Ne, List.reverse_eq_nil_iff]
      exact filled
  | case3 current rest inductionHypothesis =>
      have made := inductionHypothesis nofun
      have joined := MadeOf.ended (reversed current plain) .pair nofun made
      simpa using joined
  | case4 current char rest noPair breaks inductionHypothesis =>
      have made := inductionHypothesis nofun
      have whole : [char] = ['\r'] → rest.head? ≠ some '\n' := by
        rintro ⟨⟩ fed
        obtain ⟨others, rfl⟩ := List.head?_eq_some_iff.mp fed
        exact noPair others rfl rfl
      have joined := MadeOf.ended (reversed current plain) (.single breaks) whole made
      simpa using joined
  | case5 current char rest noPair kept inductionHypothesis =>
      rw [Bool.not_eq_true] at kept
      have made := inductionHypothesis (List.forall_mem_cons.mpr ⟨kept, plain⟩)
      simpa using made

theorem madeOf_splitLines (text : List Char) : MadeOf text (splitLinesFrom [] text) :=
  @madeOf_splitLinesFrom text [] nofun

namespace MadeOf

/-- A text is made of no other lines than those that it is split into. -/
theorem splitLinesFrom_eq (made : MadeOf text lines) : splitLinesFrom [] text = lines := by
  induction made with
  | nothing => rfl
  | @unended line filled plain =>
      have turned : line.reverse ≠ [] := fun empty => filled (List.reverse_eq_nil_iff.mp empty)
      rw [← List.append_nil line, splitLinesFrom_append plain, List.append_nil, splitLinesFrom_nil turned,
        List.reverse_reverse, List.append_nil]
  | ended plain ends whole _ inductionHypothesis =>
      rw [List.append_assoc, splitLinesFrom_append plain, splitLinesFrom_ending ends whole, inductionHypothesis,
        List.append_nil, List.reverse_reverse]

theorem plain (made : MadeOf text lines) : ∀ line ∈ lines, ∀ char ∈ line, isLineBreak char = false := by
  induction made with
  | nothing => exact nofun
  | unended _ plain => exact List.forall_mem_singleton.mpr plain
  | ended plain _ _ _ inductionHypothesis => exact List.forall_mem_cons.mpr ⟨plain, inductionHypothesis⟩

theorem eq_nil (made : MadeOf [] lines) : lines = [] := by
  rw [← made.splitLinesFrom_eq]
  rfl

theorem mem_text (made : MadeOf text lines) : ∀ line ∈ lines, ∀ char ∈ line, char ∈ text := by
  induction made with
  | nothing => exact nofun
  | unended => exact List.forall_mem_singleton.mpr fun _ member => member
  | ended _ _ _ _ inductionHypothesis =>
      refine List.forall_mem_cons.mpr ⟨fun char member => ?_, fun other among char member => ?_⟩
      · exact List.mem_append_left _ (List.mem_append_left _ member)
      · exact List.mem_append_right _ (inductionHypothesis other among char member)

end MadeOf

/-- A run of line breaks ends empty lines only. -/
theorem madeOf_breaks (all : ∀ char ∈ breaks, isLineBreak char = true) :
    ∃ count, MadeOf breaks (List.replicate count []) := by
  have made := madeOf_splitLines breaks
  have empty : ∀ line ∈ splitLinesFrom [] breaks, line = [] := by
    intro line among
    apply List.eq_nil_iff_forall_not_mem.mpr
    intro char member
    have kept := made.plain line among char member
    rw [all char (made.mem_text line among char member)] at kept
    cases kept
  rw [List.eq_replicate_of_mem empty] at made
  exact ⟨_, made⟩

/-- A text that starts with a line break starts with the whole end of a line. -/
theorem exists_ending {char : Char} (breaking : isLineBreak char = true) (rest : List Char) :
    ∃ ending others, char :: rest = ending ++ others ∧ LineEnding ending ∧
      (ending = ['\r'] → others.head? ≠ some '\n') := by
  by_cases pair : char = '\r' ∧ rest.head? = some '\n'
  · obtain ⟨rfl, fed⟩ := pair
    obtain ⟨others, rfl⟩ := List.head?_eq_some_iff.mp fed
    exact ⟨_, others, rfl, .pair, nofun⟩
  · refine ⟨[char], rest, rfl, .single breaking, ?_⟩
    rintro ⟨⟩ fed
    exact pair ⟨rfl, fed⟩

namespace MadeOf

/-- Line breaks at the end of a text end its last line and empty ones. -/
theorem append_breaks (made : MadeOf text lines) (all : ∀ char ∈ breaks, isLineBreak char = true) :
    ∃ count, MadeOf (text ++ breaks) (lines ++ List.replicate count []) := by
  induction made with
  | nothing => exact madeOf_breaks all
  | @unended line filled plain =>
      cases breaks with
      | nil =>
          refine ⟨0, ?_⟩
          rw [List.append_nil]
          exact .unended filled plain
      | cons char rest =>
          obtain ⟨ending, others, split, ends, whole⟩ := exists_ending (all char List.mem_cons_self) rest
          rw [split] at all ⊢
          obtain ⟨count, made⟩ := madeOf_breaks fun char member => all char (List.mem_append_right _ member)
          refine ⟨count, ?_⟩
          rw [← List.append_assoc]
          exact .ended plain ends whole made
  | @ended line ending rest lines plain ends whole made inductionHypothesis =>
      -- A line feed that is appended may join a carriage return at the end of the text.
      by_cases joins : ending = ['\r'] ∧ (rest ++ breaks).head? = some '\n'
      · obtain ⟨rfl, fed⟩ := joins
        cases rest with
        | cons first others => exact absurd fed (whole rfl)
        | nil =>
            obtain ⟨others, rfl⟩ := List.head?_eq_some_iff.mp fed
            obtain ⟨count, broken⟩ := madeOf_breaks fun char member => all char (List.mem_cons_of_mem _ member)
            refine ⟨count, ?_⟩
            rw [made.eq_nil]
            simpa using MadeOf.ended plain .pair nofun broken
      · obtain ⟨count, made⟩ := inductionHypothesis
        refine ⟨count, ?_⟩
        rw [List.append_assoc]
        exact .ended plain ends (fun same fed => joins ⟨same, fed⟩) made

end MadeOf

/-- Lines without breaks, of which the last has characters, are the lines of the text that joins them. -/
theorem madeOf_intercalate (plain : ∀ line ∈ lines, ∀ char ∈ line, isLineBreak char = false)
    (filled : ∀ line, lines.getLast? = some line → line ≠ []) :
    MadeOf (['\n'].intercalate lines) lines := by
  induction lines with
  | nil => exact .nothing
  | cons line others inductionHypothesis =>
      rw [List.forall_mem_cons] at plain
      cases others with
      | nil =>
          rw [List.intercalate_singleton]
          exact .unended (filled line rfl) plain.1
      | cons next last =>
          rw [List.intercalate_cons_cons]
          have ends : LineEnding ['\n'] := .single rfl
          apply MadeOf.ended plain.1 ends nofun
          exact inductionHypothesis plain.2 fun other ends => filled other (by simpa using ends)

theorem unifyNewlines_append (plain : ∀ char ∈ line, isLineBreak char = false) :
    unifyNewlines (line ++ rest) = line ++ unifyNewlines rest := by
  induction line with
  | nil => rfl
  | cons char others inductionHypothesis =>
      rw [List.forall_mem_cons] at plain
      have kept : char ≠ '\r' := by
        rintro rfl
        cases plain.1
      rw [List.cons_append, unifyNewlines, if_neg kept, inductionHypothesis plain.2]
      · rfl
      · rintro _ rfl
        exact absurd rfl kept

/-- The end of a line stays the end of a line, and is no longer a carriage return. -/
theorem unifyNewlines_ending (ends : LineEnding ending) (whole : ending = ['\r'] → rest.head? ≠ some '\n') :
    ∃ unified, LineEnding unified ∧ unified ≠ ['\r'] ∧
      unifyNewlines (ending ++ rest) = unified ++ unifyNewlines rest := by
  cases ends with
  | pair => exact ⟨['\n'], .single rfl, by decide, by rw [List.cons_append, List.cons_append, unifyNewlines]; rfl⟩
  | @single char breaks =>
      have read : unifyNewlines ([char] ++ rest) = (if char = '\r' then '\n' else char) :: unifyNewlines rest := by
        rw [List.singleton_append, unifyNewlines]
        rintro others rfl rfl
        exact whole rfl rfl
      by_cases returns : char = '\r'
      · rw [if_pos returns] at read
        exact ⟨['\n'], .single rfl, by decide, read⟩
      · rw [if_neg returns] at read
        exact ⟨[char], .single breaks, by simpa using returns, read⟩

/-- A text with unified newlines is made of the same lines. -/
theorem MadeOf.unifyNewlines (made : MadeOf text lines) : MadeOf (unifyNewlines text) lines := by
  induction made with
  | nothing => exact .nothing
  | @unended line filled plain =>
      have same := @unifyNewlines_append line [] plain
      rw [List.append_nil] at same
      rw [same, Text.unifyNewlines, List.append_nil]
      exact .unended filled plain
  | @ended line ending rest lines plain ends whole _ inductionHypothesis =>
      obtain ⟨unified, ends, alone, read⟩ := unifyNewlines_ending ends whole
      rw [List.append_assoc, unifyNewlines_append plain, read, ← List.append_assoc]
      exact .ended plain ends (fun same => absurd same alone) inductionHypothesis

theorem replaceAll_return (char : Char) (rest : List Char) :
    replaceAll ['\r'] ['\n'] (char :: rest) =
      (if char = '\r' then '\n' else char) :: replaceAll ['\r'] ['\n'] rest := by
  rw [replaceAll]
  by_cases returns : char = '\r'
  · simp [returns]
  · simp [returns, Ne.symm returns]

/-- Newlines are unified in one pass. -/
theorem withLineFeeds_eq (text : List Char) : withLineFeeds text = unifyNewlines text := by
  unfold withLineFeeds
  fun_induction Text.unifyNewlines text with
  | case1 => simp [replaceAll]
  | case2 rest inductionHypothesis =>
      have pair : replaceAll ['\r', '\n'] ['\n'] ('\r' :: '\n' :: rest) =
          '\n' :: replaceAll ['\r', '\n'] ['\n'] rest := by
        rw [replaceAll]
        simp
      rw [pair, replaceAll_return, inductionHypothesis]
      rfl
  | case3 char rest noPair inductionHypothesis =>
      have kept : replaceAll ['\r', '\n'] ['\n'] (char :: rest) =
          char :: replaceAll ['\r', '\n'] ['\n'] rest := by
        rw [replaceAll, if_neg]
        intro pair
        obtain ⟨others, same⟩ := List.isPrefixOf_iff_prefix.mp pair
        cases same
        exact noPair others rfl rfl
      rw [kept, replaceAll_return, inductionHypothesis]

/-- Empty lines at the end are dropped, however many there are. -/
theorem dropEmptyEnd_append_replicate (lines : List (List Char)) (count : Nat) :
    dropEmptyEnd (lines ++ List.replicate count []) = dropEmptyEnd lines := by
  induction count with
  | zero => rw [List.replicate_zero, List.append_nil]
  | succ count inductionHypothesis =>
      rw [List.replicate_succ', ← List.append_assoc, ← inductionHypothesis]
      simp [dropEmptyEnd]

/-- Nothing but empty lines is dropped. -/
theorem exists_eq_dropEmptyEnd_append (lines : List (List Char)) :
    ∃ count, lines = dropEmptyEnd lines ++ List.replicate count [] := by
  have dropped : ∀ line ∈ (lines.reverse.takeWhile List.isEmpty).reverse, line = [] := by
    intro line member
    have empty := List.mem_takeWhile_imp (List.mem_reverse.mp member)
    simpa using empty
  have split := congrArg List.reverse (@List.takeWhile_append_dropWhile _ List.isEmpty lines.reverse)
  rw [List.reverse_append, List.reverse_reverse, List.eq_replicate_of_mem dropped] at split
  exact ⟨_, split.symm⟩

theorem getLast?_dropEmptyEnd (ends : (dropEmptyEnd lines).getLast? = some line) : line ≠ [] := by
  rw [dropEmptyEnd, List.getLast?_reverse] at ends
  have filled := List.head?_dropWhile_not List.isEmpty lines.reverse
  rw [ends] at filled
  simpa using filled

/-- The lines of a source are those that it is made of, without the empty ones at the end. -/
theorem MadeOf.sourceLines_eq (made : MadeOf text lines) : sourceLines text = dropEmptyEnd lines := by
  rw [sourceLines, made.splitLinesFrom_eq]

/-- A source is made of its lines and of empty ones behind them. -/
theorem exists_madeOf_sourceLines (text : List Char) :
    ∃ count, MadeOf text (sourceLines text ++ List.replicate count []) := by
  have made := madeOf_splitLines text
  obtain ⟨count, split⟩ := exists_eq_dropEmptyEnd_append (splitLinesFrom [] text)
  rw [split] at made
  exact ⟨count, made⟩

theorem plain_sourceLines (text : List Char) :
    ∀ line ∈ sourceLines text, ∀ char ∈ line, isLineBreak char = false := by
  obtain ⟨count, made⟩ := exists_madeOf_sourceLines text
  intro line member
  exact made.plain line (List.mem_append_left _ member)

theorem sourceLines_intercalate (text : List Char) :
    sourceLines (['\n'].intercalate (sourceLines text)) = sourceLines text := by
  have filled : ∀ line, (sourceLines text).getLast? = some line → line ≠ [] := fun _ => getLast?_dropEmptyEnd
  rw [(madeOf_intercalate (plain_sourceLines text) filled).sourceLines_eq]
  exact dropEmptyEnd_eq_self filled

theorem sourceLines_unifyNewlines (text : List Char) : sourceLines (unifyNewlines text) = sourceLines text :=
  (madeOf_splitLines text).unifyNewlines.sourceLines_eq

theorem sourceLines_append_breaks (all : ∀ char ∈ breaks, isLineBreak char = true) :
    sourceLines (text ++ breaks) = sourceLines text := by
  obtain ⟨count, made⟩ := (madeOf_splitLines text).append_breaks all
  rw [made.sourceLines_eq, dropEmptyEnd_append_replicate, sourceLines]

end

theorem toList_splitSource (text : String) : (splitSource text).map String.toList = sourceLines text.toList := by
  simp [splitSource, Function.comp_def]

/-- Line splitting is stable under newline conventions. A text is its lines with their ends, and empty lines behind
them; no line holds a line break, and the last one has characters. Joined by newlines the lines are split again, a text
with other newlines has the same lines, so that a file has the lines of its decoded text, and line breaks at the end
of a text add no line. -/
theorem newlines_do_not_matter (text : String) :
    (∃ count, MadeOf text.toList ((splitSource text).map String.toList ++ List.replicate count [])) ∧
    (∀ line ∈ splitSource text, ∀ char ∈ line.toList, isLineBreak char = false) ∧
    (∀ line, (splitSource text).getLast? = some line → line ≠ "") ∧
    splitSource ("\n".intercalate (splitSource text)) = splitSource text ∧
    splitSource (String.ofList (withLineFeeds text.toList)) = splitSource text ∧
    (∀ (tree : FileTree) (directory : List String) (path : Path) (content : Content),
      tree.read directory path = .ok content →
      decodeUtf8 ((FileTree.bytesOf content).map UInt8.toNat) = .ok text.toList →
      tree.readLines directory path = .ok (splitSource text)) ∧
    ∀ breaks : String, (∀ char ∈ breaks.toList, isLineBreak char = true) →
      splitSource (text ++ breaks) = splitSource text := by
  refine ⟨?_, ?_, ?_, ?_, ?_, ?_, ?_⟩
  · rw [toList_splitSource]
    exact exists_madeOf_sourceLines text.toList
  · intro line member
    apply plain_sourceLines text.toList
    rw [← toList_splitSource]
    exact List.mem_map_of_mem member
  · rintro line ends rfl
    have last : (sourceLines text.toList).getLast? = some [] := by
      rw [← toList_splitSource, List.getLast?_map, ends]
      rfl
    exact getLast?_dropEmptyEnd last rfl
  · have feed : "\n".toList = ['\n'] := rfl
    rw [splitSource, String.toList_intercalate, toList_splitSource, feed, sourceLines_intercalate]
    rfl
  · rw [splitSource, String.toList_ofList, withLineFeeds_eq, sourceLines_unifyNewlines]
    rfl
  · intro tree directory path content found decoded
    rw [FileTree.readLines, FileTree.readText, found]
    simp only [decoded, sourceLines_unifyNewlines]
    rfl
  · intro breaks all
    rw [splitSource, String.toList_append, sourceLines_append_breaks all]
    rfl

/-- The bytes of a text whose lines end in five ways. -/
def mixedBytes : List UInt8 := [97, 13, 12, 98, 10, 0xe2, 0x80, 0xa9, 99, 13]

theorem newlines_do_not_matter_mixed :
    splitSource "a\r\x0cb\n\u2029c\r" = ["a", "", "b", "", "c"] ∧
      FileTree.readLines ⟨[(["notes"], .file (.bytes mixedBytes))]⟩ [] ⟨.none, ["notes"]⟩ =
        .ok ["a", "", "b", "", "c"] ∧
      splitSource ("a\r\x0cb\n\u2029c\r" ++ "\n\x0b") = ["a", "", "b", "", "c"] := by
  have split : splitSource "a\r\x0cb\n\u2029c\r" = ["a", "", "b", "", "c"] := by decide +kernel
  obtain ⟨_, _, _, _, _, file, appended⟩ := newlines_do_not_matter "a\r\x0cb\n\u2029c\r"
  refine ⟨split, ?_, ?_⟩
  · rw [← split]
    exact file _ _ _ (.bytes mixedBytes) (by decide) (by decide +kernel)
  · have breaks : ∀ char ∈ ['\n', '\x0b'], isLineBreak char = true :=
      List.forall_mem_cons.mpr ⟨rfl, List.forall_mem_singleton.mpr rfl⟩
    rw [← split]
    exact appended "\n\x0b" breaks

end GridRobot.Text
