import GridRobot.Proofs.Sessions

namespace GridRobot

theorem Direction.ofName?_name (direction : Direction) : ofName? direction.name = some direction := by
  cases direction <;> rfl

namespace Animation

/-- A row that is replayed does to the board what its action did. -/
theorem replayRow_of_acts {world next : World} {action : Action} (acts : world.Acts action next) :
    replayRow world.beepers next.robot.position action.name = next.beepers := by
  cases acts with
  | move free => simp [replayRow, Action.name]
  | turnLeft => simp [replayRow, Action.name]
  | pickBeeper near => simp [replayRow, near]
  | putBeeper loaded => simp [replayRow, Action.name]

/-- The replay of a history keeps step with the worlds. -/
theorem replay_history (start : World) (actions : List Action) :
    replay start.beepers ((start.history actions).map fun entry =>
        (entry.2.robot.position, (entry.1.name : WideString))) =
      (start.history actions).map fun entry => entry.2.beepers := by
  induction actions generalizing start with
  | nil => rfl
  | cons action later inductionHypothesis =>
      rw [World.history]
      cases done : start.perform action with
      | error error => rfl
      | ok next =>
          simp only [List.map_cons, replay, replayRow_of_acts (World.acts_of_perform done), inductionHypothesis]

/-- The rows of a run are enough to tell the beepers at each of its moments. -/
theorem replay_chronicle (start : World) (runId : WideString) (actions : List Action) :
    replay start.beepers ((start.chronicle runId actions).map fun row => (cellOf row, row.action)) =
      (start.moments actions).map fun moment => moment.2.beepers := by
  have still : replayRow start.beepers start.robot.position ("start" : String) = start.beepers := by
    simp [replayRow, Action.name]
  have rows : (start.chronicle runId actions).map (fun row => (cellOf row, row.action)) =
      (start.robot.position, (("start" : String) : WideString)) ::
        (start.history actions).map fun entry => (entry.2.robot.position, (entry.1.name : WideString)) := by
    simp [World.chronicle, World.moments, cellOf, TraceRow.ofWorld]
  rw [rows, replay, still, replay_history]
  simp [World.moments]

/-- Rows that face somewhere have frames, which show the boards. -/
theorem framesFrom_eq (board : World) (visited : List Cell) (pairs : List (TraceRow × List Cell))
    (facing : ∀ pair ∈ pairs, ∃ direction, pair.1.facing = Direction.name direction) :
    ∃ frames, framesFrom board visited pairs = .ok frames ∧
      frames.map Frame.grid = pairs.map fun pair => Grid.build board.width board.height board.walls pair.2 := by
  induction pairs generalizing visited with
  | nil => exact ⟨[], rfl, rfl⟩
  | cons pair rest inductionHypothesis =>
      rw [List.forall_mem_cons] at facing
      obtain ⟨⟨direction, faces⟩, facing⟩ := facing
      obtain ⟨frames, framed, grids⟩ := inductionHypothesis (cellOf pair.1 :: visited) facing
      simp only [framesFrom, faces, Direction.ofName?_name, framed]
      refine ⟨_, rfl, ?_⟩
      rw [List.map_cons, grids, List.map_cons]

/-- The board with the beepers of a moment is the world at that moment: no action changes the borders or the
walls. -/
theorem build_of_mem_moments {board start last : World} {bag : Int} {actions : List Action}
    {moment : String × World} (placed : start.Placed) (same : start = { board with robot.bag := bag })
    (replayed : actions.foldlM World.perform start = .ok last) (member : moment ∈ start.moments actions) :
    Grid.build board.width board.height board.walls moment.2.beepers = Grid.ofWorld moment.2 := by
  obtain ⟨number, present⟩ := List.getElem?_of_mem member
  have inside := (List.getElem?_eq_some_iff.mp present).1
  rw [World.length_moments replayed] at inside
  obtain ⟨world, led⟩ := World.replay_take replayed number
  obtain ⟨action, there⟩ := World.moments_getElem? replayed led (Nat.le_of_lt_succ inside)
  obtain rfl := Option.some.inj (there.symm.trans present)
  have accounts := placed.accounts_of_replay led
  rw [Grid.ofWorld, accounts.width, accounts.height, accounts.walls, same]

/-- The frames of a chronicle show the worlds at the moments of the run. -/
theorem framesOf_chronicle {board start last : World} {bag : Int} {actions : List Action}
    (placed : start.Placed) (same : start = { board with robot.bag := bag })
    (replayed : actions.foldlM World.perform start = .ok last) (runId : WideString) :
    ∃ frames, framesOf board (start.chronicle runId actions) = .ok frames ∧
      frames.map Frame.grid = (start.moments actions).map fun moment => Grid.ofWorld moment.2 := by
  have beepers : board.beepers = start.beepers := by rw [same]
  rw [framesOf, beepers, replay_chronicle, World.chronicle, List.zip_map']
  obtain ⟨frames, framed, grids⟩ := framesFrom_eq board [] ((start.moments actions).map fun moment =>
    (TraceRow.ofWorld runId moment.1 moment.2, moment.2.beepers)) (by
      intro pair member
      obtain ⟨moment, _, rfl⟩ := List.mem_map.mp member
      exact ⟨moment.2.robot.facing, rfl⟩)
  refine ⟨frames, framed, ?_⟩
  rw [grids, List.map_map]
  apply List.map_congr_left
  intro moment member
  exact build_of_mem_moments placed same replayed member

end Animation

namespace Job

/-- An order asks for the animation of a trace over a map, and its output can be stored. -/
structure AnimationOrder.Replays (order : AnimationOrder) (workspace : Workspace)
    (trace map output : Path) : Prop where
  rate : 1 ≤ order.frameRate
  traced : resolvePath order.base order.trace workspace = .ok (trace.resolve workspace.directory) workspace
  mapped : resolvePath order.base order.map workspace = .ok (map.resolve workspace.directory) workspace
  aimed : resolvePath order.base order.output workspace = .ok output workspace
  writable : ∃ tree, workspace.files.store workspace.directory output .picture = .ok tree

/-- An animation whose trace and map can be read is saved with the frames of its rows. -/
theorem AnimationOrder.Replays.saveAnimation {order : AnimationOrder} {workspace : Workspace}
    {tracePath mapPath output : Path} {trace : Trace} {board : World} {frames : List Frame}
    (replays : order.Replays workspace tracePath mapPath output)
    (loaded : workspace.files.loadTrace workspace.directory (tracePath.resolve workspace.directory) = .ok trace)
    (filled : Animation.ofRun order.runId trace.rows ≠ [])
    (mapped : workspace.files.loadMap workspace.directory (mapPath.resolve workspace.directory) = .ok board)
    (framed : Animation.framesOf board (Animation.inOrder (Animation.ofRun order.runId trace.rows)) =
      .ok frames) :
    ∃ animation ended, Job.saveAnimation order workspace = .ok output ended ∧
      ended.figures = workspace.figures ++ [.animation animation] ∧ animation.frames = frames := by
  obtain ⟨tree, stored⟩ := replays.writable
  have rate : ¬ order.frameRate < 1 := Int.not_lt.mpr replays.rate
  have unempty : (Animation.ofRun order.runId trace.rows).isEmpty = false := by simpa using filled
  have read : ofFiles (fun files directory =>
      files.loadTrace directory (tracePath.resolve workspace.directory)) workspace = .ok trace workspace :=
    ofFiles_eq_ok.mpr ⟨loaded, rfl⟩
  have drawn : ofFiles (fun files directory =>
      files.loadMap directory (mapPath.resolve workspace.directory)) workspace = .ok board workspace :=
    ofFiles_eq_ok.mpr ⟨mapped, rfl⟩
  let animation : Animation :=
    { frameRate := order.frameRate.toNat, frames, width := board.width, height := board.height,
      theme := order.theme, path := output }
  refine ⟨animation, { workspace with files := tree, figures := workspace.figures ++ [.animation animation] },
    ?_, rfl, rfl⟩
  rw [Job.saveAnimation, if_neg rate]
  simp only
  rw [bind_of_ok replays.traced, bind_of_ok replays.mapped, bind_of_ok replays.aimed, bind_of_ok read]
  simp only [unempty, Bool.false_eq_true, if_false]
  rw [bind_of_ok drawn, framed, ofExcept_ok, pure_bind, bind_of_ok (saveFigure_of_store _ stored)]
  rfl

end Job

namespace Session

variable {settings : Settings} {workspace : Workspace} {sources : Sources} {path : Path} {fuel : Nat}

/-- The map that a run has loaded can be loaded again, by its resolved path, unless it is overwritten. -/
theorem Ready.loadMap_again {reached : Workspace} {written : List (List String)}
    (ready : Ready settings workspace sources path)
    (extended : workspace.files.Extends reached.files written)
    (directory : reached.directory = workspace.directory)
    (rooted : reached.files.Rooted workspace.directory)
    (kept : settings.map.resolveParts workspace.directory ∉ written) :
    ∃ board, reached.files.loadMap reached.directory (settings.map.resolve reached.directory) = .ok board ∧
      sources.world = { board with robot.bag := settings.beepers } := by
  obtain ⟨_, _, board, lines, loaded, _, bagged, _⟩ := load_eq_ok.mp ready.loaded
  obtain ⟨content, text, readable, decoded, parsed⟩ := FileTree.loadMap_eq_ok.mp loaded
  refine ⟨board, ?_, (World.setBag_eq_ok.mp bagged).2⟩
  rw [directory]
  have again := rooted.read_resolve (extended.read_eq kept readable)
  exact FileTree.loadMap_eq_ok.mpr ⟨content, text, again, decoded, parsed⟩

/-- The trace, the map and the picture of a run are different files. -/
structure Apart (settings : Settings) (directory : List String) (path : Path) : Prop where
  map : settings.map.resolve directory ≠ path.resolve directory
  snapshot : ∀ snapshot, settings.snapshot = some snapshot →
    snapshot.resolve directory ≠ path.resolve directory ∧
      snapshot.resolve directory ≠ settings.map.resolve directory

/-- After a run whose files are different, its trace and its map are opened by their resolved paths. -/
theorem Closes.reopens {ended : Workspace} {trace : Trace} {execution : Execution}
    (closes : Closes fuel settings sources execution workspace ended) (ready : Ready settings workspace sources path)
    (rooted : workspace.files.Rooted workspace.directory) (apart : Apart settings workspace.directory path)
    (directory : ended.directory = workspace.directory)
    (stored : workspace.files.store workspace.directory path (.trace trace) = .ok ended.files) :
    let reached := (run fuel settings).after workspace
    reached.files.loadTrace reached.directory (path.resolve reached.directory) = .ok trace ∧
      ∃ board, reached.files.loadMap reached.directory (settings.map.resolve reached.directory) = .ok board ∧
        sources.world = { board with robot.bag := settings.beepers } := by
  intro reached
  -- The tree stays rooted, so that resolved paths still lead to the files, and the map is none of those written.
  have kept := (FileTree.extends_store stored).trans closes.extends_after
  have prepared := rooted.store stored
  rw [← directory] at prepared
  obtain ⟨place, settled⟩ := closes.rooted_after prepared
  rw [directory] at place settled kept
  have unwritten : settings.map.resolveParts workspace.directory ∉ [path.resolveParts workspace.directory] ++
      settings.snapshot.toList.map (·.resolveParts workspace.directory) := by
    rw [List.mem_append, List.mem_singleton, List.mem_map, not_or]
    refine ⟨fun taken => apart.map (congrArg (Path.mk .slash) taken), ?_⟩
    rintro ⟨snapshot, asked, taken⟩
    exact (apart.snapshot snapshot (Option.mem_toList.mp asked)).2 (congrArg (Path.mk .slash) taken)
  have readable := closes.read_trace directory stored fun snapshot asked => (apart.snapshot snapshot asked).1
  refine ⟨?_, ready.loadMap_again kept place settled unwritten⟩
  rw [place]
  exact FileTree.loadTrace_eq_ok.mpr (settled.read_resolve readable)

/-- The animation of a trace that tells the run has a frame for each moment. -/
theorem Closes.saveAnimation {ended : Workspace} {trace : Trace} {order : Job.AnimationOrder} {output : Path}
    {execution : Execution} {noted : List Action} {last : World}
    (closes : Closes fuel settings sources execution workspace ended) (ready : Ready settings workspace sources path)
    (rooted : workspace.files.Rooted workspace.directory) (apart : Apart settings workspace.directory path)
    (directory : ended.directory = workspace.directory)
    (stored : workspace.files.store workspace.directory path (.trace trace) = .ok ended.files)
    (replayed : noted.foldlM World.perform sources.world = .ok last)
    (rows : Trace.rows trace = sources.world.chronicle settings.runId noted)
    (replays : order.Replays ((run fuel settings).after workspace) path settings.map output)
    (one : Animation.ofRun order.runId (Trace.rows trace) = Trace.rows trace)
    (sorted : Animation.inOrder (Trace.rows trace) = Trace.rows trace) :
    ∃ animation finished, Job.saveAnimation order ((run fuel settings).after workspace) = .ok output finished ∧
      finished.figures = ((run fuel settings).after workspace).figures ++ [.animation animation] ∧
      animation.frames.map Frame.grid =
        (sources.world.moments noted).map fun moment => Grid.ofWorld moment.2 := by
  obtain ⟨traced, board, loaded, same⟩ := closes.reopens ready rooted apart directory stored
  obtain ⟨placed, _⟩ := ready.placed
  obtain ⟨frames, framed, grids⟩ := Animation.framesOf_chronicle placed same replayed settings.runId
  have filled : Animation.ofRun order.runId (Trace.rows trace) ≠ [] := by
    rw [one, rows]
    exact List.cons_ne_nil _ _
  have shown : Animation.framesOf board (Animation.inOrder (Animation.ofRun order.runId (Trace.rows trace))) =
      .ok frames := by
    rw [one, sorted, rows]
    exact framed
  obtain ⟨animation, finished, saved, added, rfl⟩ := replays.saveAnimation traced filled loaded shown
  exact ⟨animation, finished, saved, added, grids⟩

end Session

end GridRobot
