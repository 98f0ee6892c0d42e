import GridRobot.Report
import GridRobot.Proofs.Blame
import GridRobot.Proofs.Printing

namespace GridRobot.Program

section
variable {program : Program} {known : Registry} {world : World} {start fuel : Nat} {digits : String}

/-- A run that starts with a count that is too long stops there. -/
theorem stop_of_overlong (marked : program.checkMarkers = .ok ())
    (declared : program.declare program.turnoffNumber program.turnoffNumber 1 {} = (.ok start, known))
    (inRange : start + 1 < program.turnoffNumber) (holds : program.Holds (start + 1) 2 (.iterate digits))
    (long : Numeral.maxDigits < Numeral.countDigits digits.toList) :
    (program.run (fuel + 1) world {}).stop = some (.tooManyDigits (Numeral.countDigits digits.toList)) := by
  have broken : program.block (start + 1) program.turnoffNumber executionDepth =
      .broken (.tooManyDigits (Numeral.countDigits digits.toList)) := block_overlong inRange holds long
  rw [run_of_declare marked declared, sectionAt, broken]
  rfl

end

/-- Whatever its lines are, a run that ends is reported with the world that it leaves and the fault that it
ended in, unless it meets a counted loop whose count has too many digits, or misses a beeper at a position
that is too long to be written. -/
theorem run_is_reported (lines : List String) (fuel : Nat) (world : World)
    (ended : ((classify lines).run fuel world {}).stop ≠ some .outOfFuel) :
    (∃ fault, Report.ofExecution ((classify lines).run fuel world {}) =
        .ok (.ofWorld ((classify lines).run fuel world {}).world fault) ∧
      (fault = none ↔ ((classify lines).run fuel world {}).stop = none) ∧
      ∀ found, ((classify lines).run fuel world {}).stop = some (.fault found) → fault = some found) ∨
    ∃ failure, (classify lines).Escapes ((classify lines).run fuel world {}) failure ∧
      Report.ofExecution ((classify lines).run fuel world {}) = .error failure :=
  reported_or_escapes ended

/-- The text of a program that only turns, as often as a numeral says. -/
def spin (digits : String) : List String :=
  ["BEGINNING-OF-PROGRAM", "\tBEGINNING-OF-EXECUTION", Line.printed 2 ("ITERATE " ++ digits ++ " TIMES"),
    "\t\tBEGIN", "\t\t\tturnleft", "\t\tEND;", "\t\tturnoff", "\tEND-OF-EXECUTION", "END-OF-PROGRAM"]

theorem run_is_reported_spin :
    ((classify (spin "3")).run 20 .corridor {}).stop = none ∧
      Report.ofExecution ((classify (spin "3")).run 20 .corridor {}) =
        .ok (.ofWorld ((classify (spin "3")).run 20 .corridor {}).world none) := by
  have completed : ((classify (spin "3")).run 20 .corridor {}).stop = none := by decide +kernel
  have ended : ((classify (spin "3")).run 20 .corridor {}).stop ≠ some .outOfFuel := by
    rw [completed]
    exact nofun
  rcases run_is_reported (spin "3") 20 .corridor ended with ⟨fault, reported, complete, _⟩ | ⟨_, _, escaped⟩
  · rw [complete.mpr completed] at reported
    exact ⟨completed, reported⟩
  · rw [Report.ofExecution, completed] at escaped
    cases escaped

theorem classify_spin {digits : String}
    (prints : Line.Prints 2 ("ITERATE " ++ digits ++ " TIMES") (.iterate digits)) :
    classify (spin digits) =
      [⟨"BEGINNING-OF-PROGRAM", .programStart⟩, ⟨"\tBEGINNING-OF-EXECUTION", .executionStart⟩,
        ⟨Line.printed 2 ("ITERATE " ++ digits ++ " TIMES"), .iterate digits⟩, ⟨"\t\tBEGIN", .opening⟩,
        ⟨"\t\t\tturnleft", .statement "turnleft" false⟩, ⟨"\t\tEND;", .closing true⟩, ⟨"\t\tturnoff", .turnoff⟩,
        ⟨"\tEND-OF-EXECUTION", .executionEnd⟩, ⟨"END-OF-PROGRAM", .programEnd⟩] := by
  rw [classify, spin, List.map_cons, List.map_cons, List.map_cons, prints.classify_eq]
  rfl

/-- Every numeral can be written as the count of a spin, and the run stops if it is too long. -/
theorem stop_spin {digits : String} (fuel : Nat) (world : World)
    (numeral : digits.toList.all Text.isDigit = true)
    (long : Numeral.maxDigits < Numeral.countDigits digits.toList) :
    ((classify (spin digits)).run (fuel + 1) world {}).stop =
      some (.tooManyDigits (Numeral.countDigits digits.toList)) := by
  have filled : digits ≠ "" := by
    rintro rfl
    exact absurd long (by decide)
  have prints : Line.Prints 2 ("ITERATE " ++ digits ++ " TIMES") (.iterate digits) :=
    Line.prints_digits (by decide) filled numeral
  have text := classify_spin prints
  have marked : (classify (spin digits)).checkMarkers = .ok () := by
    rw [text]
    rfl
  have declared : (classify (spin digits)).declare (classify (spin digits)).turnoffNumber
      (classify (spin digits)).turnoffNumber 1 {} = (.ok 1, {}) := by
    rw [text]
    rfl
  exact stop_of_overlong marked declared (by decide : 1 + 1 < 6) ⟨_, rfl, prints⟩ long

/-- A count of 4301 zeros is no fault of the program that is reported: the run itself fails. -/
theorem overlong_count_escapes :
    Report.ofExecution ((classify (spin (String.ofList (List.replicate 4301 '0')))).run 1 .corridor {}) =
      .error (.refused (.numeral (.tooManyDigits 4301))) := by
  have zeros : (String.ofList (List.replicate 4301 '0')).toList = List.replicate 4301 '0' :=
    String.toList_ofList
  have digit : Text.isDigit '0' = true := by decide
  have count : Numeral.countDigits (String.ofList (List.replicate 4301 '0')).toList = 4301 := by
    rw [zeros, Numeral.countDigits, List.countP_replicate, if_pos digit]
  have numeral : (String.ofList (List.replicate 4301 '0')).toList.all Text.isDigit = true := by
    rw [zeros, List.all_replicate, digit]
    simp
  have stopped : ((classify (spin (String.ofList (List.replicate 4301 '0')))).run 1 .corridor {}).stop =
      some (.tooManyDigits 4301) := by
    have found := stop_spin 0 .corridor numeral (by rw [count]; decide)
    rw [count] at found
    exact found
  rw [Report.ofExecution, stopped]
  rfl

example : Report.ofExecution (gleaning.run 5 remoteCorridor {}) = .error (.refused .unwritable) := by decide +kernel

end GridRobot.Program
