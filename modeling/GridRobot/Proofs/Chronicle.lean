import GridRobot.Trace.Basic
import GridRobot.Proofs.Accounts
import Mathlib.Data.List.Induction

namespace GridRobot

/-- No step has been done on a map. -/
theorem Map.steps_parse {rows : List String} {world : World} (parsed : Map.parse rows = .ok world) :
    world.steps = 0 := by
  cases rows with
  | nil => cases parsed
  | cons first rest =>
      rw [parse] at parsed
      split at parsed
      · cases parsed
      · split at parsed
        · cases parsed
        · split at parsed
          · cases parsed
          · cases parsed
            rfl

namespace World

/-- The worlds of a run with the names of the actions that led to them, from the start on. -/
def moments (start : World) (actions : List Action) : List (String × World) :=
  ("start", start) :: (start.history actions).map fun entry => (entry.1.name, entry.2)

/-- The rows that a trace of a run should have. -/
def chronicle (start : World) (runId : WideString) (actions : List Action) : List TraceRow :=
  (start.moments actions).map fun moment => TraceRow.ofWorld runId moment.1 moment.2

section
variable {start world : World} {actions earlier later : List Action} {action : Action} {number : Nat}

theorem replay_cons : (action :: later).foldlM perform start = .ok world ↔
    ∃ next, start.perform action = .ok next ∧ later.foldlM perform next = .ok world := by
  rw [List.foldlM_cons]
  cases start.perform action with
  | error error => simp [bind, Except.bind]
  | ok next => simp [bind, Except.bind]

theorem replay_append : (earlier ++ later).foldlM perform start = .ok world ↔
    ∃ middle, earlier.foldlM perform start = .ok middle ∧ later.foldlM perform middle = .ok world := by
  rw [List.foldlM_append]
  cases earlier.foldlM perform start with
  | error error => simp [bind, Except.bind]
  | ok middle => simp [bind, Except.bind]

/-- The last action of a replay is done in the world after all others. -/
theorem replay_concat : (earlier ++ [action]).foldlM perform start = .ok world ↔
    ∃ before, earlier.foldlM perform start = .ok before ∧ before.perform action = .ok world := by
  simp only [replay_append, replay_cons, List.foldlM_nil, pure, Except.pure, Except.ok.injEq, exists_eq_right]

theorem length_history (replayed : actions.foldlM perform start = .ok world) :
    (start.history actions).length = actions.length := by
  induction actions generalizing start with
  | nil => rfl
  | cons action later inductionHypothesis =>
      obtain ⟨next, performed, replayed⟩ := replay_cons.mp replayed
      simp only [history, performed, List.length_cons, inductionHypothesis replayed]

/-- Every entry of a history is what its action makes of the world after the actions before it. -/
theorem history_getElem? (replayed : actions.foldlM perform start = .ok world)
    (present : actions[number]? = some action) :
    ∃ before next, (actions.take number).foldlM perform start = .ok before ∧ before.perform action = .ok next ∧
      (start.history actions)[number]? = some (action, next) := by
  induction actions generalizing start number with
  | nil => simp at present
  | cons first later inductionHypothesis =>
      obtain ⟨reached, done, replayed⟩ := replay_cons.mp replayed
      cases number with
      | zero =>
          obtain rfl : first = action := by simpa using present
          refine ⟨start, reached, rfl, done, ?_⟩
          simp [history, done]
      | succ number =>
          rw [List.getElem?_cons_succ] at present
          obtain ⟨before, next, led, performed, there⟩ := inductionHypothesis replayed present
          refine ⟨before, next, ?_, performed, ?_⟩
          · rw [List.take_succ_cons]
            exact replay_cons.mpr ⟨reached, done, led⟩
          · simpa [history, done] using there

/-- A replay keeps account of the world that it starts in. -/
theorem Placed.accounts_of_replay (placed : start.Placed)
    (replayed : actions.foldlM perform start = .ok world) :
    start.Accounts ⟨world, actions.reverse⟩ := by
  induction actions using List.reverseRecOn generalizing world with
  | nil =>
      cases replayed
      exact placed.accounts
  | append_singleton earlier action inductionHypothesis =>
      obtain ⟨before, led, performed⟩ := replay_concat.mp replayed
      rw [List.reverse_append]
      exact @Accounts.action start world ⟨before, earlier.reverse⟩ action performed (inductionHypothesis led)

/-- A part of a replay is a replay. -/
theorem replay_take (replayed : actions.foldlM perform start = .ok world) (number : Nat) :
    ∃ before, (actions.take number).foldlM perform start = .ok before := by
  rw [← List.take_append_drop number actions] at replayed
  obtain ⟨before, led, _⟩ := replay_append.mp replayed
  exact ⟨before, led⟩

theorem length_moments (replayed : actions.foldlM perform start = .ok world) :
    (start.moments actions).length = actions.length + 1 := by
  simp [moments, length_history replayed]

/-- Each moment of a run is the world after so many of its actions. -/
theorem moments_getElem? (replayed : actions.foldlM perform start = .ok world) {before : World}
    (led : (actions.take number).foldlM perform start = .ok before) (inside : number ≤ actions.length) :
    ∃ name, (start.moments actions)[number]? = some (name, before) := by
  cases number with
  | zero =>
      cases led
      exact ⟨"start", rfl⟩
  | succ number =>
      have present : actions[number]? = some actions[number] := List.getElem?_eq_getElem inside
      obtain ⟨earlier, next, ledEarlier, performed, there⟩ := history_getElem? replayed present
      rw [List.take_add_one, present, Option.toList_some, replay_concat, ledEarlier] at led
      obtain ⟨_, ⟨⟩, performed'⟩ := led
      obtain rfl : next = before := Except.ok.inj (performed.symm.trans performed')
      refine ⟨actions[number].name, ?_⟩
      rw [moments, List.getElem?_cons_succ, List.getElem?_map, there]
      rfl

/-- A bag can be set if it is not negative, and nothing else is changed. -/
theorem setBag_eq_ok {map : World} {bag : Int} :
    map.setBag bag = .ok start ↔ 0 ≤ bag ∧ start = { map with robot.bag := bag } := by
  rw [setBag]
  split
  · rename_i negative
    simp [Int.not_le.mpr negative]
  · rename_i filled
    simp [Int.not_lt.mp filled, eq_comm]

theorem Placed.setBag {map : World} {bag : Int} (placed : map.Placed) (bagged : map.setBag bag = .ok start) :
    start.Placed := by
  obtain ⟨filled, rfl⟩ := setBag_eq_ok.mp bagged
  exact ⟨placed.robot, placed.beepers, filled⟩

/-- The actions of a run lead from the world that it starts in to the world that it leaves. -/
theorem replayed_run (start : World) (program : Program) (fuel : Nat) (registry : Registry) :
    (program.run fuel start registry).actions.foldlM perform start =
      .ok (program.run fuel start registry).world := by
  have kept : ∀ (progress : Progress) (action : Action) (world : World),
      progress.world.perform action = .ok world →
      progress.actions.reverse.foldlM perform start = .ok progress.world →
      (action :: progress.actions).reverse.foldlM perform start = .ok world := by
    intro progress action world performed replayed
    rw [List.reverse_cons]
    exact replay_concat.mpr ⟨_, replayed, performed⟩
  have whole : (program.run fuel start registry).progress.actions.reverse.foldlM perform start = _ :=
    Program.keeps_run kept fuel rfl
  rwa [Execution.progress, List.reverse_reverse] at whole

end

end World

/-- A row can be stored if its texts can be encoded and its numbers fit 64 bits. -/
def TraceRow.isStorable (row : TraceRow) : Bool :=
  row.runId.isEncodable && row.action.isEncodable && fitsWord row.step && fitsWord row.x && fitsWord row.y &&
    fitsWord row.bag && fitsWord row.boardBeepers

/-- No number of a row is above the signed numbers of 64 bits. -/
structure TraceRow.Small (row : TraceRow) : Prop where
  step : row.step < wordLimit
  x : row.x < wordLimit
  y : row.y < wordLimit
  bag : row.bag < wordLimit
  boardBeepers : row.boardBeepers < wordLimit

instance (row : TraceRow) : Decidable row.Small :=
  decidable_of_iff (row.step < TraceRow.wordLimit ∧ row.x < TraceRow.wordLimit ∧ row.y < TraceRow.wordLimit ∧
      row.bag < TraceRow.wordLimit ∧ row.boardBeepers < TraceRow.wordLimit)
    ⟨fun ⟨step, x, y, bag, boardBeepers⟩ => ⟨step, x, y, bag, boardBeepers⟩,
      fun ⟨step, x, y, bag, boardBeepers⟩ => ⟨step, x, y, bag, boardBeepers⟩⟩

namespace World

/-- The rows tell how actions lead from one world to another: the start, and then every action with the state
that it leads to. -/
structure Recorded (start : World) (runId : WideString) (actions : List Action) (last : World)
    (rows : List TraceRow) : Prop where
  size : rows.length = last.steps + 1
  count : actions.length = last.steps
  first : rows[0]? = some (TraceRow.ofWorld runId ("start" : String) start)
  later : ∀ number action, actions[number]? = some action → ∃ before next,
    (actions.take number).foldlM perform start = .ok before ∧ before.perform action = .ok next ∧
    rows[number + 1]? = some (TraceRow.ofWorld runId action.name next)
  last : ∃ action : String, rows.getLast? = some (TraceRow.ofWorld runId action last)
  steps : ∀ (number : Nat) (row : TraceRow), rows[number]? = some row → row.step = number
  run : ∀ row ∈ rows, row.runId = runId
  total : ∀ row ∈ rows, row.bag + row.boardBeepers = start.robot.bag + start.beepers.length

section
variable {start last world : World} {runId : WideString} {action : String} {actions : List Action} {number : Nat}
  {row : TraceRow}

theorem chronicle_getElem?_of_take (replayed : actions.foldlM perform start = .ok last)
    (led : (actions.take number).foldlM perform start = .ok world) (inside : number ≤ actions.length) :
    ∃ action : String, (start.chronicle runId actions)[number]? = some (TraceRow.ofWorld runId action world) := by
  obtain ⟨action, there⟩ := moments_getElem? replayed led inside
  refine ⟨action, ?_⟩
  rw [chronicle, List.getElem?_map, there]
  rfl

/-- Every row of a chronicle shows the world after so many actions. -/
theorem chronicle_getElem? (replayed : actions.foldlM perform start = .ok last)
    (present : (start.chronicle runId actions)[number]? = some row) :
    ∃ (action : String) (world : World), (actions.take number).foldlM perform start = .ok world ∧
      number ≤ actions.length ∧ row = TraceRow.ofWorld runId action world := by
  have inside := (List.getElem?_eq_some_iff.mp present).1
  rw [chronicle, List.length_map, length_moments replayed] at inside
  obtain ⟨world, led⟩ := replay_take replayed number
  obtain ⟨action, there⟩ := chronicle_getElem?_of_take replayed led (Nat.le_of_lt_succ inside)
  rw [there] at present
  exact ⟨action, world, led, Nat.le_of_lt_succ inside, (Option.some.inj present).symm⟩

/-- A row is storable unless its run cannot be encoded or one of its numbers is too large: none of them is
negative. -/
theorem Placed.isStorable (placed : world.Placed) (named : runId.isEncodable = true)
    (small : (TraceRow.ofWorld runId action world).Small) :
    (TraceRow.ofWorld runId action world).isStorable = true := by
  obtain ⟨left, _, top, _⟩ := inBounds_iff.mp placed.robot.1
  have bag := placed.bag
  obtain ⟨step, x, y, full, board⟩ := small
  have called : (TraceRow.ofWorld runId action world).action.isEncodable = true :=
    WideString.isEncodable_ofString action
  have named : (TraceRow.ofWorld runId action world).runId.isEncodable = true := named
  simp only [TraceRow.isStorable, named, called, TraceRow.fitsWord, Bool.and_eq_true, decide_eq_true_eq, true_and]
  simp only [TraceRow.ofWorld, TraceRow.wordLimit] at step x y full board ⊢
  omega

theorem isStorable_chronicle (placed : start.Placed) (named : runId.isEncodable = true)
    (replayed : actions.foldlM perform start = .ok last) (small : ∀ row ∈ start.chronicle runId actions, row.Small) :
    ∀ row ∈ start.chronicle runId actions, row.isStorable = true := by
  intro row member
  obtain ⟨number, present⟩ := List.getElem?_of_mem member
  obtain ⟨action, world, led, _, rfl⟩ := chronicle_getElem? replayed present
  exact (placed.accounts_of_replay led).placed.isStorable named (small _ member)

/-- The rows of a chronicle tell the run. -/
theorem recorded_chronicle (placed : start.Placed) (fresh : start.steps = 0)
    (replayed : actions.foldlM perform start = .ok last) (runId : WideString) :
    start.Recorded runId actions last (start.chronicle runId actions) := by
  have steps := (placed.accounts_of_replay replayed).steps
  rw [fresh, Nat.zero_add, List.length_reverse] at steps
  have size : (start.chronicle runId actions).length = actions.length + 1 := by
    rw [chronicle, List.length_map, length_moments replayed]
  constructor
  · rw [size]
    exact congrArg (· + 1) steps.symm
  · exact steps.symm
  · rfl
  · intro number action present
    obtain ⟨before, next, led, performed, there⟩ := history_getElem? replayed present
    refine ⟨before, next, led, performed, ?_⟩
    rw [chronicle, moments, List.map_cons, List.getElem?_cons_succ, List.getElem?_map, List.getElem?_map, there]
    rfl
  · rw [List.getLast?_eq_getElem?, size, Nat.add_sub_cancel]
    apply chronicle_getElem?_of_take replayed _ (Nat.le_refl _)
    rw [List.take_length]
    exact replayed
  · intro number row present
    obtain ⟨action, world, led, inside, rfl⟩ := chronicle_getElem? replayed present
    have counted := (placed.accounts_of_replay led).steps
    rw [fresh, Nat.zero_add, List.length_reverse, List.length_take, Nat.min_eq_left inside] at counted
    exact congrArg Int.ofNat counted
  · intro row member
    obtain ⟨moment, _, rfl⟩ := List.mem_map.mp member
    rfl
  · intro row member
    obtain ⟨number, present⟩ := List.getElem?_of_mem member
    obtain ⟨action, world, led, _, rfl⟩ := chronicle_getElem? replayed present
    exact (placed.accounts_of_replay led).total

end

end World

end GridRobot
