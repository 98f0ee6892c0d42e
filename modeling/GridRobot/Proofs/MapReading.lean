import GridRobot.Map

namespace GridRobot

/-- The cell lies on the grid and holds no wall. -/
def World.Free (world : World) (cell : Cell) : Prop :=
  world.inBounds cell = true ∧ cell ∉ world.walls

theorem World.inBounds_iff {world : World} {cell : Cell} :
    world.inBounds cell = true ↔ 0 ≤ cell.x ∧ cell.x < world.width ∧ 0 ≤ cell.y ∧ cell.y < world.height := by
  simp only [inBounds, Bool.and_eq_true, decide_eq_true_eq, and_assoc]

/-- A cell on the grid has a column and a row. -/
theorem World.exists_of_inBounds {world : World} {cell : Cell} (inside : world.inBounds cell = true) :
    ∃ x y : Nat, cell = ⟨x, y⟩ ∧ x < world.width ∧ y < world.height := by
  obtain ⟨left, right, top, bottom⟩ := inBounds_iff.mp inside
  obtain ⟨x, atColumn⟩ := Int.eq_ofNat_of_zero_le left
  obtain ⟨y, atLine⟩ := Int.eq_ofNat_of_zero_le top
  refine ⟨x, y, by rw [← atColumn, ← atLine], ?_, ?_⟩ <;> omega

namespace Map

/-- The cell comes before column `x` of row `y` in the order of reading. -/
def Earlier (width y x : Nat) (cell : Cell) : Prop :=
  0 ≤ cell.x ∧ cell.x < width ∧ 0 ≤ cell.y ∧ (cell.y < y ∨ cell.y = y ∧ cell.x < x)

/-- All that has been read stands on earlier cells, and only walls stand on the cells of walls. -/
structure Reading.Fits (width y x : Nat) (reading : Reading) : Prop where
  walls : ∀ cell ∈ reading.walls, Earlier width y x cell
  beepers : ∀ cell ∈ reading.beepers, Earlier width y x cell ∧ cell ∉ reading.walls
  robot : ∀ robot, reading.robot = some robot →
    Earlier width y x robot.position ∧ robot.position ∉ reading.walls ∧ robot.bag = 0

section
variable {width y x : Nat} {cell : Cell}

theorem Earlier.succ (earlier : Earlier width y x cell) : Earlier width y (x + 1) cell := by
  obtain ⟨left, right, top, before⟩ := earlier
  exact ⟨left, right, top, by omega⟩

theorem earlier_self (inside : x < width) : Earlier width y (x + 1) ⟨x, y⟩ := by
  refine ⟨?_, ?_, ?_, Or.inr ⟨rfl, ?_⟩⟩ <;> simp only <;> omega

/-- A cell is not read before itself. -/
theorem Earlier.ne (earlier : Earlier width y x cell) : cell ≠ ⟨x, y⟩ := by
  rintro rfl
  obtain ⟨_, _, _, before⟩ := earlier
  simp at before

/-- Every cell of the rows that are read lies on the grid that has them. -/
theorem Earlier.free {height : Nat} {robot : Robot} {walls beepers : List Cell}
    (earlier : Earlier width height 0 cell) (apart : cell ∉ walls) :
    (⟨width, height, robot, walls.reverse, beepers, 0⟩ : World).Free cell := by
  obtain ⟨left, right, top, before⟩ := earlier
  refine ⟨World.inBounds_iff.mpr ⟨left, right, top, ?_⟩, fun member => apart (List.mem_reverse.mp member)⟩
  show cell.y < height
  omega

end

namespace Reading.Fits

variable {width y x : Nat} {reading : Reading}

/-- What comes before a cell comes before every later cell. -/
theorem mono {y' x' : Nat} (fits : reading.Fits width y x)
    (order : ∀ cell, Earlier width y x cell → Earlier width y' x' cell) : reading.Fits width y' x' where
  walls := fun cell member => order cell (fits.walls cell member)
  beepers := fun cell member => ⟨order cell (fits.beepers cell member).1, (fits.beepers cell member).2⟩
  robot := fun robot found => ⟨order _ (fits.robot robot found).1, (fits.robot robot found).2⟩

theorem addWall (fits : reading.Fits width y x) (inside : x < width) :
    { reading with walls := ⟨x, y⟩ :: reading.walls : Reading }.Fits width y (x + 1) where
  walls := List.forall_mem_cons.mpr ⟨earlier_self inside, fun cell member => (fits.walls cell member).succ⟩
  beepers := fun cell member => by
    obtain ⟨earlier, apart⟩ := fits.beepers cell member
    exact ⟨earlier.succ, List.not_mem_cons_of_ne_of_not_mem earlier.ne apart⟩
  robot := fun robot found => by
    obtain ⟨earlier, apart, empty⟩ := fits.robot robot found
    exact ⟨earlier.succ, List.not_mem_cons_of_ne_of_not_mem earlier.ne apart, empty⟩

/-- The next cell holds no wall yet. -/
theorem not_mem_walls (fits : reading.Fits width y x) : (⟨x, y⟩ : Cell) ∉ reading.walls :=
  fun member => (fits.walls _ member).ne rfl

theorem addBeeper (fits : reading.Fits width y x) (inside : x < width) :
    { reading with beepers := ⟨x, y⟩ :: reading.beepers : Reading }.Fits width y (x + 1) where
  walls := fun cell member => (fits.walls cell member).succ
  beepers := List.forall_mem_cons.mpr
    ⟨⟨earlier_self inside, fits.not_mem_walls⟩, (fits.mono fun _ => Earlier.succ).beepers⟩
  robot := (fits.mono fun _ => Earlier.succ).robot

theorem addRobot (fits : reading.Fits width y x) (inside : x < width) (facing : Direction) :
    { reading with robot := some ⟨⟨x, y⟩, facing, 0⟩ : Reading }.Fits width y (x + 1) where
  walls := fun cell member => (fits.walls cell member).succ
  beepers := (fits.mono fun _ => Earlier.succ).beepers
  robot := fun robot found => by
    cases found
    exact ⟨earlier_self inside, fits.not_mem_walls, rfl⟩

/-- The rest of a row is read up to its end. -/
theorem readRow {row : List Char} {next : Reading} (fits : reading.Fits width y x)
    (whole : x + row.length = width) (read : Map.readRow y x row reading = .ok next) :
    next.Fits width y width := by
  fun_induction Map.readRow y x row reading with
  | case1 x reading =>
      cases read
      cases whole
      exact fits
  | case2 x char rest reading empty inductionHypothesis =>
      rw [List.length_cons] at whole
      exact inductionHypothesis (fits.mono fun _ => Earlier.succ) (by omega) read
  | case3 x rest reading cell visible inductionHypothesis =>
      rw [List.length_cons] at whole
      exact inductionHypothesis (fits.addWall (by omega)) (by omega) read
  | case4 x rest reading cell visible different inductionHypothesis =>
      rw [List.length_cons] at whole
      exact inductionHypothesis (fits.addBeeper (by omega)) (by omega) read
  | case5 x char rest reading cell visible noWall noBeeper facing first found inductionHypothesis =>
      rw [List.length_cons] at whole
      exact inductionHypothesis (fits.addRobot (by omega) facing) (by omega) read
  | case6 => cases read
  | case7 => cases read

/-- Behind the last column the next row starts. -/
theorem nextRow (fits : reading.Fits width y width) : reading.Fits width (y + 1) 0 := by
  apply fits.mono
  rintro cell ⟨left, right, top, before⟩
  exact ⟨left, right, top, by omega⟩

/-- Rows are read from the top to the bottom. -/
theorem readRows {rows : List String} {next : Reading} (fits : reading.Fits width y 0)
    (read : Map.readRows width y rows reading = .ok next) : next.Fits width (y + rows.length) 0 := by
  fun_induction Map.readRows width y rows reading with
  | case1 y reading =>
      cases read
      exact fits
  | case2 => cases read
  | case3 => cases read
  | case4 y row rest reading even reached readFirst inductionHypothesis =>
      have whole : 0 + row.toList.length = width := by
        rw [Nat.zero_add, String.length_toList]
        exact Decidable.not_not.mp even
      rw [List.length_cons, Nat.add_comm rest.length, ← Nat.add_assoc]
      exact inductionHypothesis (fits.readRow whole readFirst).nextRow read

end Reading.Fits

end Map

/-- The robot and all beepers stand on free cells, and the bag is not overdrawn. -/
structure World.Placed (world : World) : Prop where
  robot : world.Free world.robot.position
  beepers : ∀ cell ∈ world.beepers, world.Free cell
  bag : 0 ≤ world.robot.bag

/-- A map that is read places the robot and the beepers beside the walls. -/
theorem Map.placed_parse {rows : List String} {world : World} (parsed : Map.parse rows = .ok world) :
    world.Placed := by
  cases rows with
  | nil => cases parsed
  | cons first rest =>
      rw [parse] at parsed
      split at parsed
      · cases parsed
      · split at parsed
        · cases parsed
        · rename_i reading read
          have fresh : ({} : Reading).Fits first.length 0 0 := ⟨nofun, nofun, nofun⟩
          have fits := fresh.readRows read
          rw [Nat.zero_add, List.length_cons] at fits
          split at parsed
          · cases parsed
          · rename_i robot found
            cases parsed
            obtain ⟨earlier, apart, empty⟩ := fits.robot robot found
            refine ⟨earlier.free apart, fun cell member => ?_, Int.le_of_eq empty.symm⟩
            obtain ⟨earlier, apart⟩ := fits.beepers cell (List.mem_reverse.mp member)
            exact earlier.free apart

end GridRobot
