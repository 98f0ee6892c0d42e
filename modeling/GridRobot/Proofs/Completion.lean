import GridRobot.Proofs.Declarations
import GridRobot.Proofs.Runs

namespace GridRobot.Program

section
variable {program : Program} {registry known : Registry} {last start number stop fuel : Nat} {block : Block}
  {progress reached : Progress} {world : World}

/-- A live walk that returns a line makes the walk that is not live return it too. -/
theorem carryOut_live_finished
    (finished : program.carryOut registry fuel true block progress = .finished last reached) :
    program.carryOut registry fuel false block progress = .finished last progress := by
  rw [carryOut, if_pos rfl] at finished
  have runs := runs_execute program registry fuel Nesting.limit block progress
  rw [finished] at runs
  exact carryOut_eq_finished.mpr ⟨rfl, runs.skip_eq⟩

/-- A completed run has accepted its declarations, and its execution section has come to its end. -/
theorem finished_of_run (completed : (program.run fuel world registry).stop = none) :
    ∃ start known last reached,
      program.declare program.turnoffNumber program.turnoffNumber 1 registry = (.ok start, known) ∧
      program.execute known fuel Nesting.limit
        (program.sectionAt (start + 1) program.turnoffNumber executionDepth) { world } =
          .finished last reached := by
  rw [run] at completed
  split at completed
  · cases completed
  · split at completed
    · cases completed
    · rename_i start known declared
      simp only at completed
      split at completed
      · rename_i last reached finished
        exact ⟨start, known, last, reached, declared, finished⟩
      · cases completed

theorem ended_of_execution {outcome : Outcome} (ended : (outcome.execution registry).stop ≠ some .outOfFuel) :
    outcome.Ended := by
  cases outcome with
  | finished number progress => exact trivial
  | stopped problem progress =>
      rintro rfl
      exact ended rfl

/-- Executions that end are the same, however much fuel they are given. -/
theorem execute_eq_of_ended {fuel' : Nat} (ended : (program.execute registry fuel left block progress).Ended)
    (ended' : (program.execute registry fuel' left block progress).Ended) :
    program.execute registry fuel left block progress = program.execute registry fuel' left block progress := by
  obtain ⟨enough, settled⟩ := (program.runs_execute registry fuel left block progress).settles ended
  obtain ⟨enough', settled'⟩ := (program.runs_execute registry fuel' left block progress).settles ended'
  rw [← settled enough', ← settled' enough, Nat.add_comm]

/-- Runs that end are the same, however much fuel they are given. -/
theorem run_eq_of_ended {fuel' : Nat} (ended : (program.run fuel world registry).stop ≠ some .outOfFuel)
    (ended' : (program.run fuel' world registry).stop ≠ some .outOfFuel) :
    program.run fuel world registry = program.run fuel' world registry := by
  cases marked : program.checkMarkers with
  | error problem => simp only [run, marked]
  | ok =>
      cases declared : program.declare program.turnoffNumber program.turnoffNumber 1 registry with
      | mk result known =>
          cases result with
          | error problem => simp only [run, marked, declared]
          | ok start =>
              simp only [run_of_declare marked declared] at ended ended' ⊢
              rw [execute_eq_of_ended (ended_of_execution ended) (ended_of_execution ended')]

end

/-- A completed run proves its whole execution section well-formed: the walk that is not live also
reaches the turnoff line, and so all lines of the section, executed or not, derive a block. In general
a live walk that returns a line makes the walk that is not live return the same line. -/
theorem completed_run_reads_everything :
    (∀ (program : Program) (fuel : Nat) (world : World) (registry : Registry),
      (program.run fuel world registry).stop = none →
        ∃ start known,
          program.declare program.turnoffNumber program.turnoffNumber 1 registry = (.ok start, known) ∧
          program.Holds start 1 .executionStart ∧
          (∀ progress, program.carryOut known fuel false
            (program.block (start + 1) program.turnoffNumber executionDepth) progress =
              .finished program.turnoffNumber progress) ∧
          ∃ height, program.Derives height 2 (start + 1) program.turnoffNumber) ∧
    (∀ (program : Program) (registry : Registry) (fuel start stop : Nat) (depth : Int) (progress : Progress)
      (last : Nat) (reached : Progress),
      program.carryOut registry fuel true (program.block start stop depth) progress = .finished last reached →
        program.carryOut registry fuel false (program.block start stop depth) progress =
          .finished last progress) := by
  refine ⟨?_, fun program registry fuel start stop depth progress last reached => carryOut_live_finished⟩
  intro program fuel world registry completed
  obtain ⟨start, known, last, reached, declared, finished⟩ := finished_of_run completed
  obtain ⟨inRange, holds⟩ := (declares_of_declare declared).start_bounds
  have runs := runs_execute program known fuel Nesting.limit
    (program.sectionAt (start + 1) program.turnoffNumber executionDepth) { world }
  rw [finished] at runs
  obtain ⟨_, skipped⟩ := (skip_sectionAt_eq_ok (by omega)).mp runs.skip_eq
  obtain ⟨derives, _⟩ := derives_of_skip (by decide : 1 ≤ 2) (by omega) skipped
  exact ⟨start, known, declared, holds, fun progress => carryOut_eq_finished.mpr ⟨rfl, skipped⟩, _, derives⟩

theorem completed_run_reads_everything_tour :
    (tour.run 100 .corridor {}).stop = none ∧
      (∃ start known, tour.declare tour.turnoffNumber tour.turnoffNumber 1 {} = (.ok start, known) ∧
        ∃ height, tour.Derives height 2 (start + 1) tour.turnoffNumber) ∧
      tour.carryOut {} 100 false (tour.block 9 13 2) { world := .corridor } =
        .finished 13 { world := .corridor } := by
  have completed : (tour.run 100 .corridor {}).stop = none := by decide +kernel
  obtain ⟨start, known, declared, _, _, derives⟩ :=
    completed_run_reads_everything.1 tour 100 .corridor {} completed
  refine ⟨completed, ⟨start, known, declared, derives⟩, ?_⟩
  apply completed_run_reads_everything.2 tour {} 100 9 13 2 { world := .corridor } 13
    ⟨{ World.corridor with robot.position := ⟨1, 0⟩, steps := 1 }, [.move]⟩
  decide +kernel

end GridRobot.Program
