import GridRobot.Report
import GridRobot.Proofs.Chronicle
import GridRobot.Proofs.Painting

namespace GridRobot

/-- A relation between worlds that no program can tell apart: conditions have the same answer, and an action
fails with the same error or leads to related worlds again. -/
structure World.Bisimulation (Related : World → World → Prop) : Prop where
  asks : ∀ {world other : World}, Related world other → ∀ condition,
    other.ask? condition = world.ask? condition
  fails : ∀ {world other : World} {action : Action} {hindrance : Hindrance}, Related world other →
    world.perform action = .error hindrance → other.perform action = .error hindrance
  performs : ∀ {world other next : World} {action : Action}, Related world other →
    world.perform action = .ok next → ∃ next', other.perform action = .ok next' ∧ Related next next'

/-- The same has been done in related worlds. -/
structure Progress.Alike (Related : World → World → Prop) (progress other : Progress) : Prop where
  world : Related progress.world other.world
  actions : other.actions = progress.actions

/-- Two runs end in the same way and in related worlds. -/
inductive Outcome.Alike (Related : World → World → Prop) : Outcome → Outcome → Prop where
  | finished {number : Nat} {progress other : Progress} (alike : progress.Alike Related other) :
      Alike Related (.finished number progress) (.finished number other)
  | stopped {problem : Stop} {progress other : Progress} (alike : progress.Alike Related other) :
      Alike Related (.stopped problem progress) (.stopped problem other)

/-- Two whole runs do the same, and the worlds that they leave are related. -/
structure Execution.Alike (Related : World → World → Prop) (execution other : Execution) : Prop where
  stop : other.stop = execution.stop
  actions : other.actions = execution.actions
  registry : other.registry = execution.registry
  world : Related execution.world other.world

section
variable {Related : World → World → Prop} {progress : Progress} {outcome outcome' : Outcome}

theorem Outcome.Alike.of_finished {number : Nat} (alike : Alike Related (.finished number progress) outcome) :
    ∃ other, outcome = .finished number other ∧ progress.Alike Related other := by
  cases alike with
  | finished alike => exact ⟨_, rfl, alike⟩

theorem Outcome.Alike.of_stopped {problem : Stop} (alike : Alike Related (.stopped problem progress) outcome) :
    ∃ other, outcome = .stopped problem other ∧ progress.Alike Related other := by
  cases alike with
  | stopped alike => exact ⟨_, rfl, alike⟩

theorem Outcome.Alike.execution (alike : Alike Related outcome outcome') (registry : Registry) :
    (outcome.execution registry).Alike Related (outcome'.execution registry) := by
  cases alike with
  | finished alike => exact ⟨rfl, congrArg List.reverse alike.actions, rfl, alike.world⟩
  | stopped alike => exact ⟨rfl, congrArg List.reverse alike.actions, rfl, alike.world⟩

end

namespace World.Bisimulation

variable {Related : World → World → Prop} {program : Program} {registry : Registry}

/-- A program runs in the same way in related worlds, step by step. -/
theorem execute (bisimulation : Bisimulation Related) (fuel left : Nat) (block : Block)
    {progress other : Progress} (alike : progress.Alike Related other) :
    Outcome.Alike Related (program.execute registry fuel left block progress)
      (program.execute registry fuel left block other) := by
  have asks {progress other : Progress} (alike : progress.Alike Related other) (condition : String) :
      other.world.ask? condition = progress.world.ask? condition := bisimulation.asks alike.world condition
  fun_induction Program.execute program registry fuel left block progress generalizing other with
  | case1 => exact .stopped alike
  | case2 => exact .finished alike
  | case3 => exact .stopped alike
  | case4 fuel left number name rest progress action known error failed =>
      simp only [Program.execute, known, bisimulation.fails alike.world failed]
      exact .stopped alike
  | case5 fuel left number name rest progress action known world performed after =>
      obtain ⟨next, performed', related⟩ := bisimulation.performs alike.world performed
      simp only [Program.execute, known, performed']
      exact after ⟨related, congrArg (action :: ·) alike.actions⟩
  | case6 fuel left number name rest progress absent missing =>
      simp only [Program.execute, absent, missing]
      exact .stopped alike
  | case7 fuel left number name rest progress absent span found guilty calls =>
      simp only [Program.execute, absent, found, calls]
      exact .stopped alike
  | case8 fuel left number name rest progress absent span found sober refused =>
      simp only [Program.execute, absent, found, sober, refused]
      exact .stopped alike
  | case9 fuel left number name rest progress absent span found sober inner entered called problem reached ran =>
      rename_i body
      obtain ⟨reached', ran', alike'⟩ := (ran ▸ body alike).of_stopped
      simp only [Program.execute, absent, found, sober, entered, called, ran']
      exact .stopped alike'
  | case10 fuel left number name rest progress absent span found sober inner entered called last reached ran
      body =>
      rename_i after
      obtain ⟨reached', ran', alike'⟩ := (ran ▸ body alike).of_finished
      simp only [Program.execute, absent, found, sober, entered, called, ran']
      exact after alike'
  | case11 fuel left number condition body alternative rest progress unknown =>
      simp only [Program.execute, asks alike, unknown]
      exact .stopped alike
  | case12 fuel left number condition body alternative rest progress answer refused known =>
      simp only [Program.execute, asks alike, known, refused]
      exact .stopped alike
  | case13 fuel left number condition body alternative rest progress inner entered holds problem reached ran
      inside =>
      obtain ⟨reached', ran', alike'⟩ := (ran ▸ inside alike).of_stopped
      simp only [Program.execute, asks alike, holds, entered, ran']
      exact .stopped alike'
  | case14 fuel left number condition body alternative rest progress inner entered holds last reached ran problem
      unread inside =>
      obtain ⟨reached', ran', alike'⟩ := (ran ▸ inside alike).of_finished
      simp only [Program.execute, asks alike, holds, entered, ran', unread]
      exact .stopped alike'
  | case15 fuel left number condition body alternative rest progress inner entered holds last reached ran last'
      skipped inside after =>
      obtain ⟨reached', ran', alike'⟩ := (ran ▸ inside alike).of_finished
      simp only [Program.execute, asks alike, holds, entered, ran', skipped]
      exact after alike'
  | case16 fuel left number condition body alternative rest progress inner entered fails problem unread =>
      simp only [Program.execute, asks alike, fails, entered, unread]
      exact .stopped alike
  | case17 fuel left number condition body alternative rest progress inner entered fails last skipped problem
      reached ran inside =>
      obtain ⟨reached', ran', alike'⟩ := (ran ▸ inside alike).of_stopped
      simp only [Program.execute, asks alike, fails, entered, skipped, ran']
      exact .stopped alike'
  | case18 fuel left number condition body alternative rest progress inner entered fails last skipped last' reached
      ran inside after =>
      obtain ⟨reached', ran', alike'⟩ := (ran ▸ inside alike).of_finished
      simp only [Program.execute, asks alike, fails, entered, skipped, ran']
      exact after alike'
  | case19 fuel left number condition body rest progress unknown =>
      simp only [Program.execute, asks alike, unknown]
      exact .stopped alike
  | case20 fuel left number condition body rest progress answer refused known =>
      simp only [Program.execute, asks alike, known, refused]
      exact .stopped alike
  | case21 fuel left number condition body rest progress inner entered holds problem reached ran inside =>
      obtain ⟨reached', ran', alike'⟩ := (ran ▸ inside alike).of_stopped
      simp only [Program.execute, asks alike, holds, entered, ran']
      exact .stopped alike'
  | case22 fuel left number condition body rest progress inner entered holds last reached ran unknown inside =>
      obtain ⟨reached', ran', alike'⟩ := (ran ▸ inside alike).of_finished
      simp only [Program.execute, asks alike, holds, entered, ran', asks alike', unknown]
      exact .stopped alike'
  | case23 fuel left number condition body rest progress inner entered holds last reached ran again inside after =>
      obtain ⟨reached', ran', alike'⟩ := (ran ▸ inside alike).of_finished
      simp only [Program.execute, asks alike, holds, entered, ran', asks alike', again]
      exact after alike'
  | case24 fuel left number condition body rest progress inner entered holds last reached ran lapsed inside after =>
      obtain ⟨reached', ran', alike'⟩ := (ran ▸ inside alike).of_finished
      simp only [Program.execute, asks alike, holds, entered, ran', asks alike', lapsed]
      exact after alike'
  | case25 fuel left number condition body rest progress inner entered fails problem unread =>
      simp only [Program.execute, asks alike, fails, entered, unread]
      exact .stopped alike
  | case26 fuel left number condition body rest progress inner entered fails last skipped after =>
      simp only [Program.execute, asks alike, fails, entered, skipped]
      exact after alike
  | case27 fuel left number count body rest progress refused =>
      simp only [Program.execute, refused]
      exact .stopped alike
  | case28 fuel left number body rest progress inner entered problem unread =>
      simp only [Program.execute, entered, unread]
      exact .stopped alike
  | case29 fuel left number body rest progress inner entered last skipped after =>
      simp only [Program.execute, entered, skipped]
      exact after alike
  | case30 fuel left number body rest progress more inner entered problem reached ran inside =>
      obtain ⟨reached', ran', alike'⟩ := (ran ▸ inside alike).of_stopped
      simp only [Program.execute, entered, ran']
      exact .stopped alike'
  | case31 fuel left number body rest progress inner entered last reached ran inside after =>
      obtain ⟨reached', ran', alike'⟩ := (ran ▸ inside alike).of_finished
      simp only [Program.execute, entered, ran']
      exact after alike'
  | case32 fuel left number body rest progress inner entered last reached ran more inside after =>
      obtain ⟨reached', ran', alike'⟩ := (ran ▸ inside alike).of_finished
      simp only [Program.execute, entered, ran']
      exact after alike'

/-- A whole run does the same in related worlds, and the worlds that it leaves are related. -/
theorem run (bisimulation : Bisimulation Related) (program : Program) (fuel : Nat) (registry : Registry)
    {world other : World} (related : Related world other) :
    (program.run fuel world registry).Alike Related (program.run fuel other registry) := by
  cases marked : program.checkMarkers with
  | error problem =>
      simp only [Program.run, marked]
      exact ⟨rfl, rfl, rfl, related⟩
  | ok accepted =>
      cases declared : program.declare program.turnoffNumber program.turnoffNumber 1 registry with
      | mk result known =>
          cases result with
          | error problem =>
              simp only [Program.run, marked, declared]
              exact ⟨rfl, rfl, rfl, related⟩
          | ok start =>
              rw [Program.run_of_declare marked declared, Program.run_of_declare marked declared]
              have alike : Progress.Alike Related { world } { world := other } := ⟨related, rfl⟩
              exact (bisimulation.execute fuel Nesting.limit _ alike).execution known

/-- Actions that lead somewhere lead to related worlds from related worlds. -/
theorem replay (bisimulation : Bisimulation Related) {actions : List Action} {world other last : World}
    (related : Related world other) (replayed : actions.foldlM perform world = .ok last) :
    ∃ last', actions.foldlM perform other = .ok last' ∧ Related last last' := by
  induction actions generalizing world other with
  | nil =>
      cases replayed
      exact ⟨other, rfl, related⟩
  | cons action later inductionHypothesis =>
      obtain ⟨next, performed, replayed⟩ := replay_cons.mp replayed
      obtain ⟨next', performed', related⟩ := bisimulation.performs related performed
      obtain ⟨last', replayed', related⟩ := inductionHypothesis related replayed
      exact ⟨last', replay_cons.mpr ⟨next', performed', replayed'⟩, related⟩

end World.Bisimulation

namespace World

/-- Two worlds differ at most in the order of their records of beepers. -/
def Shuffled (world other : World) : Prop :=
  ∃ beepers, world.beepers.Perm beepers ∧ other = { world with beepers }

variable {world other : World}

/-- No condition asks for the order of the records. -/
theorem Shuffled.ask?_eq (shuffled : world.Shuffled other) (condition : String) :
    other.ask? condition = world.ask? condition := by
  obtain ⟨beepers, permuted, rfl⟩ := shuffled
  rw [ask?, ask?]
  cases Condition.ofName? condition with
  | none => rfl
  | some asked =>
      have near : nextToBeeper { world with beepers } = world.nextToBeeper := permuted.contains_eq.symm
      cases asked with
      | nextToBeeper => exact congrArg some near
      | notNextToBeeper => exact congrArg (some ∘ not) near
      | _ => rfl

theorem Acts.perform_eq {next : World} {action : Action} (acts : world.Acts action next) :
    world.perform action = .ok next := by
  cases acts with
  | move free =>
      rw [perform, frontIsBlocked, free]
      rfl
  | turnLeft => rfl
  | pickBeeper near => exact if_pos (List.contains_iff_mem.mpr near)
  | putBeeper loaded => exact if_pos (decide_eq_true loaded)

/-- An action that fails, fails in the same way whatever the order of the records is. -/
theorem Shuffled.fails {action : Action} {hindrance : Hindrance} (shuffled : world.Shuffled other)
    (failed : world.perform action = .error hindrance) : other.perform action = .error hindrance := by
  obtain ⟨beepers, permuted, rfl⟩ := shuffled
  cases action with
  | turnLeft => cases failed
  | move =>
      rw [perform] at failed
      split at failed
      · rename_i blocked
        cases failed
        exact if_pos blocked
      · cases failed
  | pickBeeper =>
      rw [perform] at failed
      split at failed
      · cases failed
      · rename_i away
        cases failed
        rw [nextToBeeper, permuted.contains_eq] at away
        exact if_neg away
  | putBeeper =>
      rw [perform] at failed
      split at failed
      · cases failed
      · rename_i empty
        cases failed
        exact if_neg empty

/-- After an action the records are the same again but for their order. -/
theorem Shuffled.performs {next : World} {action : Action} (shuffled : world.Shuffled other)
    (performed : world.perform action = .ok next) :
    ∃ next', other.perform action = .ok next' ∧ next.Shuffled next' := by
  obtain ⟨beepers, permuted, rfl⟩ := shuffled
  cases acts_of_perform performed with
  | move free => exact ⟨_, Acts.perform_eq (.move free), beepers, permuted, rfl⟩
  | turnLeft => exact ⟨_, Acts.perform_eq .turnLeft, beepers, permuted, rfl⟩
  | pickBeeper near =>
      have near' : world.robot.position ∈ beepers := permuted.mem_iff.mp near
      exact ⟨_, Acts.perform_eq (.pickBeeper near'), _, permuted.erase _, rfl⟩
  | putBeeper loaded => exact ⟨_, Acts.perform_eq (.putBeeper loaded), _, permuted.append_right _, rfl⟩

theorem bisimulation_shuffled : Bisimulation Shuffled where
  asks := Shuffled.ask?_eq
  fails := Shuffled.fails
  performs := Shuffled.performs

/-- The drawing of a board only shows where there are beepers. -/
theorem Shuffled.draw_eq (shuffled : world.Shuffled other) : Map.draw other = Map.draw world := by
  obtain ⟨beepers, permuted, rfl⟩ := shuffled
  have same : Map.charAt { world with beepers } = Map.charAt world := by
    funext cell
    rw [Map.charAt, Map.charAt, permuted.contains_eq]
  rw [Map.draw, Map.draw, Map.drawRows, Map.drawRows]
  simp only [Map.drawRow, same]

theorem Shuffled.grid_eq (shuffled : world.Shuffled other) : Grid.ofWorld other = Grid.ofWorld world := by
  obtain ⟨beepers, permuted, rfl⟩ := shuffled
  have same : Grid.fillOf world.walls beepers = Grid.fillOf world.walls world.beepers := by
    funext cell
    simp only [Grid.fillOf, permuted.mem_iff]
  simp only [Grid.ofWorld, Grid.build_eq_table, same]

theorem Shuffled.ofWorld_eq (shuffled : world.Shuffled other) (fault : Option Fault) :
    Report.ofWorld other fault = Report.ofWorld world fault := by
  obtain ⟨beepers, permuted, rfl⟩ := shuffled
  rw [Report.ofWorld, Report.ofWorld, permuted.length_eq]

end World

/-- Runs that do the same up to the order of the records have the same report. -/
theorem Execution.Alike.ofExecution_eq {execution other : Execution}
    (alike : execution.Alike World.Shuffled other) :
    Report.ofExecution other = Report.ofExecution execution := by
  rw [Report.ofExecution, Report.ofExecution, alike.stop]
  simp only [alike.world.ofWorld_eq]

namespace Program

/-- The records of beepers are really a multiset. In two worlds that differ only in the order of their records, a
program with any registry runs in the same way: one run ends exactly if the other does, with the same actions,
the same registry and the same report. After any number of actions the two boards are drawn and painted alike,
and the records that are left differ only in their order. -/
theorem beepers_form_a_multiset (program : Program) (registry : Registry) (world other : World)
    (shuffled : world.Shuffled other) :
    ((∃ fuel, (program.run fuel other registry).stop ≠ some .outOfFuel) ↔
      ∃ fuel, (program.run fuel world registry).stop ≠ some .outOfFuel) ∧
    ∀ fuel,
      let execution := program.run fuel world registry
      let execution' := program.run fuel other registry
      execution'.stop = execution.stop ∧ execution'.actions = execution.actions ∧
      execution'.registry = execution.registry ∧
      Report.ofExecution execution' = Report.ofExecution execution ∧
      (∀ number, ∃ here there,
        (execution.actions.take number).foldlM World.perform world = .ok here ∧
        (execution'.actions.take number).foldlM World.perform other = .ok there ∧
        Map.draw there = Map.draw here ∧ Grid.ofWorld there = Grid.ofWorld here ∧
        here.beepers.Perm there.beepers) ∧
      execution.world.Shuffled execution'.world := by
  have alike (fuel : Nat) := World.bisimulation_shuffled.run program fuel registry shuffled
  constructor
  · simp only [(alike _).stop]
  · intro fuel execution execution'
    have same := alike fuel
    refine ⟨same.stop, same.actions, same.registry, same.ofExecution_eq, ?_, same.world⟩
    intro number
    obtain ⟨here, led⟩ := World.replay_take (world.replayed_run program fuel registry) number
    obtain ⟨there, led', shuffled'⟩ := World.bisimulation_shuffled.replay shuffled led
    rw [← same.actions] at led'
    refine ⟨here, there, led, led', shuffled'.draw_eq, shuffled'.grid_eq, ?_⟩
    obtain ⟨beepers, permuted, rfl⟩ := shuffled'
    exact permuted

/-- A lane with a beeper on each of its cells and the records in an order of choice. -/
def lane (beepers : List Cell) : World :=
  { width := 3, height := 1, robot := ⟨⟨0, 0⟩, .east, 0⟩, beepers }

theorem beepers_form_a_multiset_tour :
    (tour.run 100 (lane [⟨1, 0⟩, ⟨2, 0⟩, ⟨0, 0⟩]) {}).actions = [.move, .move, .pickBeeper] ∧
      (tour.run 100 (lane [⟨1, 0⟩, ⟨2, 0⟩, ⟨0, 0⟩]) {}).world.beepers = [⟨1, 0⟩, ⟨0, 0⟩] ∧
      (tour.run 100 (lane [⟨0, 0⟩, ⟨2, 0⟩, ⟨1, 0⟩]) {}).actions =
        (tour.run 100 (lane [⟨1, 0⟩, ⟨2, 0⟩, ⟨0, 0⟩]) {}).actions ∧
      (tour.run 100 (lane [⟨1, 0⟩, ⟨2, 0⟩, ⟨0, 0⟩]) {}).world.Shuffled
        (tour.run 100 (lane [⟨0, 0⟩, ⟨2, 0⟩, ⟨1, 0⟩]) {}).world := by
  have shuffled : (lane [⟨1, 0⟩, ⟨2, 0⟩, ⟨0, 0⟩]).Shuffled (lane [⟨0, 0⟩, ⟨2, 0⟩, ⟨1, 0⟩]) :=
    ⟨_, by decide, rfl⟩
  obtain ⟨_, actions, _, _, _, left⟩ := (beepers_form_a_multiset tour {} _ _ shuffled).2 100
  exact ⟨by decide +kernel, by decide +kernel, actions, left⟩

end Program

end GridRobot
