import GridRobot.Proofs.Printing
import GridRobot.Proofs.Simulation

namespace GridRobot.Program

section
variable {program : Program} {number : Nat} {lines : List String}

theorem Holds.of_prints {depth : Nat} {words : String} {kind : LineKind} (prints : Line.Prints depth words kind)
    (present : program[number]? = some (Line.classify (Line.printed depth words))) :
    program.Holds number depth kind :=
  ⟨_, present, prints⟩

/-- What stands behind a block: a closing line if the block is closed, and no alternative of a branch. -/
def Follows (program : Program) (number : Nat) (closing : Bool) : Prop :=
  ∃ line, program[number]? = some line ∧ line.kind.isClosing = closing ∧ line.kind ≠ .otherwise

theorem Holds.follows {depth : Nat} {terminated : Bool}
    (holds : program.Holds number depth (.closing terminated)) : program.Follows number true := by
  obtain ⟨line, found, kind, _⟩ := holds
  exact ⟨line, found, by simp [kind, LineKind.isClosing], by simp [kind]⟩

/-- A line that is terminated unless a closing line follows is punctuated. -/
theorem Holds.punctuated {depth : Nat} {kind : LineKind} {closing : Bool} {next : Line}
    (holds : program.Holds number depth kind) (present : program[number + 1]? = some next)
    (closes : next.kind.isClosing = closing) (terminated : kind.isTerminated = !closing) :
    program.Punctuated number := by
  obtain ⟨line, found, rfl, _⟩ := holds
  refine ⟨line, found, ?_⟩
  have closesNext : program.ClosesNext number ↔ closing = true := by
    rw [ClosesNext, present, ← closes]
    simp
  rw [terminated, closesNext]
  cases closing <;> simp

/-- The printed lines of a block stand in a program up to the line where the block ends. -/
structure Written (program : Program) (number last stop depth : Nat) (closed : Bool) (code : Code) : Prop where
  text : program.Continues number (code.lines depth closed)
  length : last = number + (code.lines depth closed).length
  follows : program.Follows last closed
  ended : program.block last stop depth = .done last
  inRange : last ≤ stop

/-- A written block starts with a closing line exactly if it is empty and closed. -/
theorem Written.starts {last stop depth : Nat} {closed : Bool} {code : Code}
    (written : program.Written number last stop depth closed code) (deep : 2 ≤ depth) (valid : code.Valid) :
    program.Follows number (code.endsNext closed) := by
  have start {words : String} {kind : LineKind} (prints : Line.Prints depth words kind)
      {inside : List String} (text : program.Continues number (Line.printed depth words :: inside))
      (plain : kind.isClosing = false ∧ kind ≠ .otherwise) : program.Follows number false := by
    rw [← prints.1] at plain
    exact ⟨_, (continues_cons.mp text).1, plain⟩
  cases code with
  | done =>
      have same : last = number := written.length
      rw [← same]
      exact written.follows
  | statement name rest =>
      exact start (Line.prints_statement deep valid.1 valid.2.1 _) written.text (by simp [LineKind.isClosing])
  | branch condition body rest =>
      exact start (Line.prints_branch (by omega) valid.1) written.text (by simp [LineKind.isClosing])
  | choice condition body alternative rest =>
      exact start (Line.prints_branch (by omega) valid.1) written.text (by simp [LineKind.isClosing])
  | loop condition body rest =>
      exact start (Line.prints_loop (by omega) valid.1) written.text (by simp [LineKind.isClosing])
  | iterate count body rest =>
      exact start (Line.prints_iterate (by omega) count) written.text (by simp [LineKind.isClosing])

/-- An enclosed block is read like the written block inside it. -/
theorem encloses_of_enclosed {stop depth close : Nat} {terminated : Bool} {body : Code} {next : Line}
    (positive : 0 < depth)
    (text : program.Continues (number + 1) (Line.enclosed depth (body.lines (depth + 1) true) terminated))
    (length : close = number + 2 + (body.lines (depth + 1) true).length) (inRange : close < stop)
    (present : program[close + 1]? = some next) (closes : next.kind.isClosing = !terminated)
    (reads : ∀ first last, program.Written first last stop (depth + 1) true body →
      (program.block first stop (depth + 1 : Nat)).Shows body ∧
        (program.block first stop (depth + 1 : Nat)).ending = .ok last) :
    program.Encloses number stop depth close ∧
      (program.block (number + 2) stop (depth + 1 : Nat)).Shows body := by
  obtain ⟨opening, text⟩ := continues_cons.mp text
  obtain ⟨inside, closing⟩ := continues_append.mp text
  rw [Nat.add_assoc number, ← length] at closing
  have closing := (continues_cons.mp closing).1
  have holds := Holds.of_prints (Line.prints_closing positive terminated) closing
  have written : program.Written (number + 2) close stop (depth + 1) true body :=
    ⟨inside, length, holds.follows, block_closing inRange holds, Nat.le_of_lt inRange⟩
  obtain ⟨shows, ended⟩ := reads _ _ written
  refine ⟨⟨Holds.of_prints (Line.prints_opening positive) opening, ended, inRange, ?_⟩, shows⟩
  exact holds.punctuated present closes (by simp [LineKind.isTerminated])

/-- The lines of an enclosed block and what follows them. -/
theorem continues_enclosed {depth close : Nat} {terminated : Bool} {inside : List String}
    (length : close = number + 2 + inside.length)
    (text : program.Continues (number + 1) (Line.enclosed depth inside terminated ++ lines)) :
    program.Continues (number + 1) (Line.enclosed depth inside terminated) ∧
      program.Continues (close + 1) lines := by
  obtain ⟨enclosed, after⟩ := continues_append.mp text
  refine ⟨enclosed, ?_⟩
  have place : number + 1 + (Line.enclosed depth inside terminated).length = close + 1 := by
    simp only [Line.enclosed, List.length_cons, List.length_append, List.length_nil]
    omega
  rw [← place]
  exact after

/-- The body of a construct is enclosed, and the steps after the construct are written behind it. -/
theorem encloses_of_lines {last stop depth : Nat} {closed : Bool} {body rest : Code} {inside : List String}
    (deep : 2 ≤ depth) (valid : rest.Valid)
    (written : inside = Line.enclosed depth (body.lines (depth + 1) true) (!rest.endsNext closed) ++
      rest.lines depth closed)
    (text : program.Continues (number + 1) inside) (length : last = number + 1 + inside.length)
    (follows : program.Follows last closed) (ended : program.block last stop depth = .done last)
    (inRange : last ≤ stop)
    (reads : ∀ first last, program.Written first last stop (depth + 1) true body →
      (program.block first stop (depth + 1 : Nat)).Shows body ∧
        (program.block first stop (depth + 1 : Nat)).ending = .ok last) :
    ∃ close, program.Encloses number stop depth close ∧
      (program.block (number + 2) stop (depth + 1 : Nat)).Shows body ∧
      program.Written (close + 1) last stop depth closed rest := by
  obtain ⟨close, closeEq⟩ : ∃ close, close = number + 2 + (body.lines (depth + 1) true).length := ⟨_, rfl⟩
  subst written
  obtain ⟨enclosed, text⟩ := continues_enclosed closeEq text
  have length : last = close + 1 + (rest.lines depth closed).length := by
    rw [length, closeEq]
    simp only [Line.enclosed, List.length_cons, List.length_append, List.length_nil]
    omega
  have after : program.Written (close + 1) last stop depth closed rest := ⟨text, length, follows, ended, inRange⟩
  obtain ⟨next, found, closes, plain⟩ := after.starts deep valid
  obtain ⟨encloses, shows⟩ := encloses_of_enclosed (by omega) enclosed closeEq (by omega) found
    (by simpa using closes) reads
  exact ⟨close, encloses, shows, after⟩

/-- A written block is read as its code, up to the line where it ends. -/
theorem Written.shows {last stop depth : Nat} {closed : Bool} {code : Code} (within : stop ≤ program.length)
    (deep : 2 ≤ depth) (valid : code.Valid)
    (written : program.Written number last stop depth closed code) :
    (program.block number stop depth).Shows code ∧ (program.block number stop depth).ending = .ok last := by
  have behind {header : String} {inside : List String} {number last : Nat}
      (length : last = number + (header :: inside).length) : last = number + 1 + inside.length := by
    rw [length, List.length_cons]
    omega
  induction code generalizing number last depth closed with
  | done =>
      have same : last = number := written.length
      rw [← same, written.ended]
      exact ⟨.done, rfl⟩
  | statement name rest inductionHypothesis =>
      obtain ⟨named, free, valid⟩ := valid
      obtain ⟨text, length, follows, ended, inRange⟩ := written
      obtain ⟨present, text⟩ := continues_cons.mp text
      have after : program.Written (number + 1) last stop depth closed rest :=
        ⟨text, behind length, follows, ended, inRange⟩
      have holds := Holds.of_prints (Line.prints_statement deep named free _) present
      obtain ⟨next, found, closes, _⟩ := after.starts deep valid
      have punctuated := holds.punctuated found closes rfl
      have bounds := behind length
      rw [block_statement (by omega) holds punctuated]
      obtain ⟨shows, ended⟩ := inductionHypothesis deep valid after
      exact ⟨.statement shows, ended⟩
  | branch condition body rest bodyHypothesis restHypothesis =>
      obtain ⟨fine, bodyValid, restValid⟩ := valid
      obtain ⟨text, length, follows, ended, inRange⟩ := written
      obtain ⟨present, text⟩ := continues_cons.mp text
      obtain ⟨close, encloses, shows, after⟩ := encloses_of_lines deep restValid rfl text (behind length) follows
        ended inRange fun first last => bodyHypothesis (by omega) bodyValid
      obtain ⟨next, found, _, plain⟩ := after.starts deep restValid
      have holds := Holds.of_prints (Line.prints_branch (by omega) fine) present
      have alone (_ : close + 1 < stop) (line : Line) (found' : program[close + 1]? = some line) :
          line.kind ≠ .otherwise := by
        rw [found] at found'
        cases found'
        exact plain
      rw [block_branch holds encloses (fun inRange => Nat.lt_of_lt_of_le inRange within) alone]
      obtain ⟨later, ended⟩ := restHypothesis deep restValid after
      exact ⟨.branch shows .done later, ended⟩
  | choice condition body alternative rest bodyHypothesis alternativeHypothesis restHypothesis =>
      obtain ⟨fine, bodyValid, alternativeValid, restValid⟩ := valid
      obtain ⟨text, length, follows, ended, inRange⟩ := written
      obtain ⟨present, text⟩ := continues_cons.mp text
      obtain ⟨close, closeEq⟩ : ∃ close, close = number + 2 + (body.lines (depth + 1) true).length := ⟨_, rfl⟩
      obtain ⟨enclosed, text⟩ := continues_enclosed closeEq text
      obtain ⟨found, text⟩ := continues_cons.mp text
      have otherwise := Holds.of_prints (Line.prints_otherwise (by omega)) found
      have length : last = close + 1 + 1 +
          (Line.enclosed depth (alternative.lines (depth + 1) true) (!rest.endsNext closed) ++
            rest.lines depth closed).length := by
        rw [behind length, closeEq]
        simp only [Line.enclosed, List.length_cons, List.length_append, List.length_nil]
        omega
      obtain ⟨afterwards, encloses', shows', after⟩ := encloses_of_lines deep restValid rfl text length follows
        ended inRange fun first last => alternativeHypothesis (by omega) alternativeValid
      have bounds := encloses'.bounds
      obtain ⟨encloses, shows⟩ := encloses_of_enclosed (by omega) enclosed closeEq (by omega) found
        (by rw [(Line.prints_otherwise (by omega)).1]; rfl) fun first last => bodyHypothesis (by omega) bodyValid
      have holds := Holds.of_prints (Line.prints_branch (by omega) fine) present
      rw [block_choice holds encloses otherwise encloses']
      obtain ⟨later, ended⟩ := restHypothesis deep restValid after
      exact ⟨.choice shows shows' later, ended⟩
  | loop condition body rest bodyHypothesis restHypothesis =>
      obtain ⟨fine, bodyValid, restValid⟩ := valid
      obtain ⟨text, length, follows, ended, inRange⟩ := written
      obtain ⟨present, text⟩ := continues_cons.mp text
      obtain ⟨close, encloses, shows, after⟩ := encloses_of_lines deep restValid rfl text (behind length) follows
        ended inRange fun first last => bodyHypothesis (by omega) bodyValid
      have holds := Holds.of_prints (Line.prints_loop (by omega) fine) present
      rw [block_loop holds encloses]
      obtain ⟨later, ended⟩ := restHypothesis deep restValid after
      exact ⟨.loop shows later, ended⟩
  | iterate count body rest bodyHypothesis restHypothesis =>
      obtain ⟨short, bodyValid, restValid⟩ := valid
      obtain ⟨text, length, follows, ended, inRange⟩ := written
      obtain ⟨present, text⟩ := continues_cons.mp text
      obtain ⟨close, encloses, shows, after⟩ := encloses_of_lines deep restValid rfl text (behind length) follows
        ended inRange fun first last => bodyHypothesis (by omega) bodyValid
      have holds := Holds.of_prints (Line.prints_iterate (by omega) count) present
      have short' : Numeral.countDigits count.repr.toList ≤ Numeral.maxDigits := by
        rw [Numeral.countDigits_repr]
        exact short
      rw [block_iterate holds short' encloses, Numeral.valueOf_repr]
      obtain ⟨later, ended⟩ := restHypothesis deep restValid after
      exact ⟨.iterate shows later, ended⟩

end

end GridRobot.Program
