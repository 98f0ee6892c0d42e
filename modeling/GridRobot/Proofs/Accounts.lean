import GridRobot.Proofs.MapReading
import GridRobot.Proofs.Points

namespace GridRobot

namespace World

/-- What an action that succeeds does. -/
inductive Acts (world : World) : Action → World → Prop where
  | move (free : world.isBlocked world.robot.front = false) :
      Acts world .move { world with robot.position := world.robot.front, steps := world.steps + 1 }
  | turnLeft :
      Acts world .turnLeft
        { world with robot.facing := world.robot.facing.left, steps := world.steps + 1 }
  | pickBeeper (near : world.robot.position ∈ world.beepers) :
      Acts world .pickBeeper
        { world with
          beepers := world.beepers.erase world.robot.position
          robot.bag := world.robot.bag + 1
          steps := world.steps + 1 }
  | putBeeper (loaded : 0 < world.robot.bag) :
      Acts world .putBeeper
        { world with
          beepers := world.beepers ++ [world.robot.position]
          robot.bag := world.robot.bag - 1
          steps := world.steps + 1 }

section
variable {world next start : World} {action : Action} {cell : Cell}

theorem acts_of_perform (performed : world.perform action = .ok next) : world.Acts action next := by
  cases action with
  | move =>
      rw [perform] at performed
      split at performed
      · cases performed
      · rename_i free
        cases performed
        exact .move (Bool.not_eq_true _ ▸ free)
  | turnLeft =>
      cases performed
      exact .turnLeft
  | pickBeeper =>
      rw [perform] at performed
      split at performed
      · rename_i near
        cases performed
        exact .pickBeeper (List.contains_iff_mem.mp near)
      · cases performed
  | putBeeper =>
      rw [perform] at performed
      split at performed
      · rename_i loaded
        cases performed
        exact .putBeeper (of_decide_eq_true loaded)
      · cases performed

theorem isBlocked_eq_false : world.isBlocked cell = false ↔ world.Free cell := by
  simp [isBlocked, Free]

/-- No action moves the borders or the walls, and each is one step. -/
theorem Acts.frame (acts : world.Acts action next) :
    next.width = world.width ∧ next.height = world.height ∧ next.walls = world.walls ∧
      next.steps = world.steps + 1 := by
  cases acts <;> exact ⟨rfl, rfl, rfl, rfl⟩

/-- Which cells are free is the same after an action. -/
theorem Acts.free_iff (acts : world.Acts action next) : next.Free cell ↔ world.Free cell := by
  obtain ⟨width, height, walls, _⟩ := acts.frame
  rw [Free, Free, inBounds_iff, inBounds_iff, width, height, walls]

/-- The robot moves to free cells only, and it puts beepers on the cell it stands on. -/
theorem Acts.placed (acts : world.Acts action next) (placed : world.Placed) : next.Placed := by
  have kept {cell : Cell} (free : world.Free cell) : next.Free cell := acts.free_iff.mpr free
  have beepers : ∀ cell ∈ world.beepers, next.Free cell :=
    fun cell member => kept (placed.beepers cell member)
  have bag := placed.bag
  cases acts with
  | move free => exact ⟨kept (isBlocked_eq_false.mp free), beepers, bag⟩
  | turnLeft => exact ⟨kept placed.robot, beepers, bag⟩
  | pickBeeper near =>
      refine ⟨kept placed.robot, ?_, ?_⟩
      · intro cell member
        exact beepers cell (List.mem_of_mem_erase member)
      · show 0 ≤ world.robot.bag + 1
        omega
  | putBeeper loaded =>
      refine ⟨kept placed.robot, ?_, ?_⟩
      · intro cell member
        rcases List.mem_append.mp member with earlier | added
        · exact beepers cell earlier
        · obtain rfl := List.mem_singleton.mp added
          exact kept placed.robot
      · show 0 ≤ world.robot.bag - 1
        omega

/-- Beepers go from the board to the bag and back, one at a time. -/
theorem Acts.total (acts : world.Acts action next) :
    next.robot.bag + next.beepers.length = world.robot.bag + world.beepers.length := by
  cases acts with
  | move free => rfl
  | turnLeft => rfl
  | pickBeeper near =>
      have shorter := List.length_erase_of_mem near
      have filled := List.length_pos_of_mem near
      simp only
      omega
  | putBeeper loaded =>
      simp only [List.length_append, List.length_singleton]
      omega

/-- How often an action is done on a cell. -/
def doneAt (start : World) (actions : List Action) (action : Action) (cell : Cell) : Nat :=
  (start.history actions).countP fun entry => entry.1 = action && entry.2.robot.position = cell

/-- On every cell the records of beepers change by what is put and picked there. -/
theorem Acts.beepersAt (acts : world.Acts action next) (cell : Cell) :
    next.beepersAt cell + (if action = .pickBeeper ∧ next.robot.position = cell then 1 else 0) =
      world.beepersAt cell + (if action = .putBeeper ∧ next.robot.position = cell then 1 else 0) := by
  cases acts with
  | move free => simp [World.beepersAt]
  | turnLeft => simp [World.beepersAt]
  | pickBeeper near =>
      have filled := List.count_pos_iff.mpr near
      simp only [World.beepersAt, List.count_erase]
      by_cases here : world.robot.position = cell
      · subst here
        simp only [BEq.rfl, ↓reduceIte, and_self, reduceCtorEq, and_true, Nat.add_zero]
        omega
      · simp [here]
  | putBeeper loaded =>
      simp [World.beepersAt, List.count_append, List.count_singleton]

/-- The history of one more action has one more entry. -/
theorem history_concat {actions : List Action}
    (replayed : actions.foldlM perform start = .ok world) (performed : world.perform action = .ok next) :
    start.history (actions ++ [action]) = start.history actions ++ [(action, next)] := by
  induction actions generalizing start with
  | nil =>
      cases replayed
      simp [history, performed]
  | cons first rest inductionHypothesis =>
      rw [List.foldlM_cons] at replayed
      cases done : start.perform first with
      | error error =>
          rw [done] at replayed
          cases replayed
      | ok reached =>
          rw [done] at replayed
          simp only [List.cons_append, history, done]
          rw [inductionHypothesis replayed]

theorem doneAt_concat {actions : List Action} {other : Action}
    (replayed : actions.foldlM perform start = .ok world) (performed : world.perform action = .ok next) :
    start.doneAt (actions ++ [action]) other cell =
      start.doneAt actions other cell + if action = other ∧ next.robot.position = cell then 1 else 0 := by
  simp [doneAt, history_concat replayed performed, List.countP_append, List.countP_singleton]

end

/-- What holds at a point of a run that starts in a world: the actions done so far have led there, one step
each; the grid is the same; everything stands on free cells; and beepers are only carried about. -/
structure Accounts (start : World) (progress : Progress) : Prop where
  replayed : progress.actions.reverse.foldlM perform start = .ok progress.world
  steps : progress.world.steps = start.steps + progress.actions.length
  width : progress.world.width = start.width
  height : progress.world.height = start.height
  walls : progress.world.walls = start.walls
  placed : progress.world.Placed
  total : progress.world.robot.bag + progress.world.beepers.length =
    start.robot.bag + start.beepers.length
  counts : ∀ cell,
    progress.world.beepersAt cell + start.doneAt progress.actions.reverse .pickBeeper cell =
      start.beepersAt cell + start.doneAt progress.actions.reverse .putBeeper cell

theorem Placed.accounts {start : World} (placed : start.Placed) : start.Accounts { world := start } where
  replayed := rfl
  steps := rfl
  width := rfl
  height := rfl
  walls := rfl
  placed := placed
  total := rfl
  counts := fun _ => rfl

/-- An action that succeeds keeps the accounts. -/
theorem Accounts.action {start world : World} {progress : Progress} {action : Action}
    (performed : progress.world.perform action = .ok world) (accounts : start.Accounts progress) :
    start.Accounts ⟨world, action :: progress.actions⟩ := by
  have acts := acts_of_perform performed
  obtain ⟨width, height, walls, steps⟩ := acts.frame
  constructor
  · rw [List.reverse_cons, List.foldlM_append, accounts.replayed]
    show [action].foldlM perform progress.world = .ok world
    rw [List.foldlM_cons, performed]
    rfl
  · rw [steps, accounts.steps, List.length_cons, Nat.add_assoc]
  · exact width.trans accounts.width
  · exact height.trans accounts.height
  · exact walls.trans accounts.walls
  · exact acts.placed accounts.placed
  · exact acts.total.trans accounts.total
  · intro cell
    have changed := acts.beepersAt cell
    have counted := accounts.counts cell
    rw [List.reverse_cons, doneAt_concat accounts.replayed performed, doneAt_concat accounts.replayed performed]
    simp only
    omega

end World

namespace Program

/-- A run in a world that is read from a map keeps account of it. At every point, and when it has ended,
completed or not, the world is what the actions done so far make of the first world, nothing stands on a
wall or off the grid, and the beepers on the board and in the bag are those of the first world. -/
theorem run_keeps_accounts (program : Program) (registry : Registry) (rows : List String) (bag : Int)
    (map start : World) (parsed : Map.parse rows = .ok map) (bagged : map.setBag bag = .ok start) :
    (∀ point, program.Passes start registry point → start.Accounts point.progress) ∧
    ∀ fuel, start.Accounts (program.run fuel start registry).progress := by
  have placed : start.Placed := by
    have standing := Map.placed_parse parsed
    rw [World.setBag] at bagged
    split at bagged
    · cases bagged
    · rename_i filled
      cases bagged
      exact ⟨standing.robot, standing.beepers, Int.not_lt.mp filled⟩
  have kept : ∀ progress action world, progress.world.perform action = .ok world →
      start.Accounts progress → start.Accounts ⟨world, action :: progress.actions⟩ := by
    intro progress action world performed accounts
    exact accounts.action performed
  constructor
  · intro point passes
    exact passes.keeps kept placed.accounts
  · intro fuel
    exact keeps_run kept fuel placed.accounts

theorem run_keeps_accounts_tour :
    ∃ map start, Map.parse [">.*", "#.."] = .ok map ∧ map.setBag 2 = .ok start ∧
      (tour.run 100 start {}).actions = [.move, .move, .pickBeeper] ∧
      start.Accounts (tour.run 100 start {}).progress := by
  refine ⟨_, _, rfl, rfl, ?_, (run_keeps_accounts tour {} [">.*", "#.."] 2 _ _ rfl rfl).2 100⟩
  decide +kernel

end Program

end GridRobot
