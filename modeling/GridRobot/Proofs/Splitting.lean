import GridRobot.Text.Lines

namespace GridRobot.Text

section
variable {line current rest : List Char} {lines : List (List Char)}

theorem splitLinesFrom_nil (filled : current ≠ []) : splitLinesFrom current [] = [current.reverse] := by
  cases current with
  | nil => exact absurd rfl filled
  | cons char others => rfl

/-- A carriage return with a line feed ends one line. -/
theorem splitLinesFrom_pair :
    splitLinesFrom current ('\r' :: '\n' :: rest) = current.reverse :: splitLinesFrom [] rest := by
  cases current <;> rfl

/-- A character that does not start a pair ends the current line or goes into it. -/
theorem splitLinesFrom_single {char : Char} (single : char = '\r' → rest.head? ≠ some '\n') :
    splitLinesFrom current (char :: rest) =
      if isLineBreak char then current.reverse :: splitLinesFrom [] rest
      else splitLinesFrom (char :: current) rest := by
  -- The equations of the single cases take long to derive, since the patterns overlap.
  rw [splitLinesFrom.eq_def]
  split <;> rename_i same
  · cases same
  · cases same
  · cases same
    exact absurd rfl (single rfl)
  · cases same
    rfl

/-- A character that is no line break goes into the current line. -/
theorem splitLinesFrom_cons {char : Char} (plain : isLineBreak char = false) :
    splitLinesFrom current (char :: rest) = splitLinesFrom (char :: current) rest := by
  rw [splitLinesFrom_single, plain, if_neg Bool.false_ne_true]
  rintro rfl
  cases plain

theorem splitLinesFrom_append (plain : ∀ char ∈ line, isLineBreak char = false) :
    splitLinesFrom current (line ++ rest) = splitLinesFrom (line.reverse ++ current) rest := by
  induction line generalizing current with
  | nil => rfl
  | cons first others inductionHypothesis =>
      rw [List.forall_mem_cons] at plain
      rw [List.cons_append, splitLinesFrom_cons plain.1, inductionHypothesis plain.2, List.reverse_cons,
        List.append_assoc, List.singleton_append]

/-- Lines that each end in a newline are split into the lines. -/
theorem splitLinesFrom_lines (plain : ∀ line ∈ lines, ∀ char ∈ line, isLineBreak char = false) :
    splitLinesFrom [] (lines.flatMap fun line => line ++ ['\n']) = lines := by
  induction lines with
  | nil => rfl
  | cons line others inductionHypothesis =>
      rw [List.forall_mem_cons] at plain
      have newline (rest : List Char) : splitLinesFrom line.reverse ('\n' :: rest) =
          line.reverse.reverse :: splitLinesFrom [] rest := by
        rw [splitLinesFrom_single fun same => absurd same (by decide)]
        rfl
      rw [List.flatMap_cons, List.append_assoc, splitLinesFrom_append plain.1, List.append_nil,
        List.singleton_append, newline, inductionHypothesis plain.2, List.reverse_reverse]

/-- Lines of which the last is not empty keep their end. -/
theorem dropEmptyEnd_eq_self (filled : ∀ line, lines.getLast? = some line → line ≠ []) :
    dropEmptyEnd lines = lines := by
  rw [dropEmptyEnd]
  cases reversed : lines.reverse with
  | nil => rw [List.reverse_eq_nil_iff.mp reversed]; rfl
  | cons last others =>
      have ends : last ≠ [] := by
        apply filled
        rw [← List.head?_reverse, reversed, List.head?_cons]
      rw [List.dropWhile_cons_of_neg (by simpa using ends), ← reversed, List.reverse_reverse]

end

end GridRobot.Text
