import GridRobot.Figure.Sketch
import GridRobot.Proofs.Painting
import GridRobot.Proofs.Redrawing

namespace GridRobot

namespace Grid

/-- The code of the fill in column `x` of row `y`. -/
def code? (grid : Grid) (x y : Nat) : Option Nat :=
  grid[y]?.bind fun row => row[x]?.map Fill.code

section
variable {width height x y : Nat} {rule : Cell → Fill} {walls walls' beepers beepers' : List Cell}

theorem length_table : (table width height rule).length = height := by
  rw [table, List.length_map, List.length_range]

theorem length_of_mem_table {row : List Fill} (member : row ∈ table width height rule) : row.length = width := by
  obtain ⟨y, _, rfl⟩ := List.mem_map.mp member
  rw [List.length_map, List.length_range]

theorem code?_table (inside : x < width) (above : y < height) :
    (table width height rule).code? x y = some (rule ⟨x, y⟩).code := by
  simp [code?, table, inside, above]

/-- What a cell shows depends only on which cells have walls and beepers. -/
theorem fillOf_congr (sameWalls : ∀ cell, cell ∈ walls' ↔ cell ∈ walls)
    (sameBeepers : ∀ cell, cell ∈ beepers' ↔ cell ∈ beepers) : fillOf walls' beepers' = fillOf walls beepers := by
  funext cell
  simp only [fillOf, sameWalls, sameBeepers]

theorem build?_natCast : build? width height walls beepers = some (table width height (fillOf walls beepers)) := by
  have positive : (decide ((width : Int) < 0) || decide ((height : Int) < 0)) = false := by simp
  rw [build?, positive, build_eq_table]
  rfl

end

end Grid

namespace Map

/-- Away from the robot, a cell is drawn as what it is painted with. -/
theorem charAt_eq_glyph_fillOf {world : World} {cell : Cell} (away : cell ≠ world.robot.position) :
    charAt world cell = (Grid.fillOf world.walls world.beepers cell).glyph := by
  rw [charAt, if_neg away, Grid.fillOf]
  simp only [List.contains_iff_mem]
  split
  · rfl
  · split <;> rfl

/-- The console and a picture show the same board. The picture has a code for every cell, and away from the robot it is
that of a beeper, of a wall or of an empty cell exactly if the character drawn there is. It does not matter in which
order walls and beepers are given, or how often. -/
theorem drawing_agrees_with_picture (world : World) :
    ∃ grid, Grid.build? world.width world.height world.walls world.beepers = some grid ∧
      grid.length = world.height ∧ (∀ row ∈ grid, row.length = world.width) ∧
      (∀ x y : Nat, x < world.width → y < world.height → (⟨x, y⟩ : Cell) ≠ world.robot.position →
        (char? (Text.splitSource (draw world)) x y = some '*' ↔ grid.code? x y = some 2) ∧
        (char? (Text.splitSource (draw world)) x y = some '#' ↔ grid.code? x y = some 1) ∧
        (char? (Text.splitSource (draw world)) x y = some '.' ↔ grid.code? x y = some 0) ∧
        (grid.code? x y = some 2 ∨ grid.code? x y = some 1 ∨ grid.code? x y = some 0)) ∧
      ∀ walls beepers, (∀ cell, cell ∈ walls ↔ cell ∈ world.walls) →
        (∀ cell, cell ∈ beepers ↔ cell ∈ world.beepers) →
        Grid.build? world.width world.height walls beepers = some grid := by
  refine ⟨_, Grid.build?_natCast, Grid.length_table, fun _ => Grid.length_of_mem_table, ?_, ?_⟩
  · intro x y inside above away
    obtain ⟨fill, shown⟩ : ∃ fill, Grid.fillOf world.walls world.beepers ⟨x, y⟩ = fill := ⟨_, rfl⟩
    have drawn : char? (Text.splitSource (draw world)) x y = some fill.glyph := by
      rw [splitSource_draw (Nat.zero_lt_of_lt inside), char?_drawRows, charAt_eq_glyph_fillOf away, shown]
      exact ⟨inside, above, rfl⟩
    rw [drawn, Grid.code?_table inside above, shown]
    cases fill <;> decide
  · intro walls beepers sameWalls sameBeepers
    rw [Grid.build?_natCast, Grid.fillOf_congr sameWalls sameBeepers]

theorem drawing_agrees_with_picture_crowded :
    (⟨0, 1⟩ : Cell) ≠ crowded.robot.position ∧ char? (Text.splitSource (draw crowded)) 0 1 = some '*' ∧
      ∃ grid, Grid.build? 2 2 crowded.walls crowded.beepers = some grid ∧ grid.code? 0 1 = some 2 ∧
        Grid.build? 2 2 [⟨5, 5⟩, ⟨0, 1⟩, ⟨1, 0⟩, ⟨0, 1⟩] [⟨-1, 0⟩, ⟨0, 1⟩] = some grid := by
  have away : (⟨0, 1⟩ : Cell) ≠ crowded.robot.position := by decide
  have drawn : char? (Text.splitSource (draw crowded)) 0 1 = some '*' := by decide +kernel
  obtain ⟨grid, built, _, _, agrees, same⟩ := drawing_agrees_with_picture crowded
  refine ⟨away, drawn, grid, built, (agrees 0 1 (by decide) (by decide) away).1.mp drawn, same _ _ ?_ ?_⟩
  · intro cell
    simp [crowded, or_comm, or_assoc, or_left_comm]
  · intro cell
    simp [crowded, or_comm]

end Map

end GridRobot
