import GridRobot.Proofs.Chronicle
import GridRobot.Proofs.MapFaults
import GridRobot.Proofs.Splitting

namespace GridRobot

/-- The order in which the cells of a board are read, row by row. -/
def Cell.Before (first second : Cell) : Prop :=
  first.y < second.y ∨ first.y = second.y ∧ first.x < second.x

theorem Cell.ofNat_inj {x y x' y' : Nat} : (⟨x, y⟩ : Cell) = ⟨x', y'⟩ ↔ x = x' ∧ y = y' := by
  rw [Cell.mk.injEq, Int.natCast_inj, Int.natCast_inj]

/-- Everything stands on the grid, and the robot and the beepers beside the walls. -/
structure World.Tidy (world : World) : Prop where
  placed : world.Placed
  walls : ∀ cell ∈ world.walls, world.inBounds cell = true

namespace Map

/-- Empty cells have two characters on a map and only one of them when they are drawn. -/
def pointed (char : Char) : Char :=
  if char = ' ' then '.' else char

/-- What can be seen of a world is the same in the copy. The beepers under the robot and the number of beepers on a
cell cannot be seen. -/
structure Redrawn (world copy : World) : Prop where
  width : copy.width = world.width
  height : copy.height = world.height
  walls : ∀ cell, cell ∈ copy.walls ↔ cell ∈ world.walls
  position : copy.robot.position = world.robot.position
  facing : copy.robot.facing = world.robot.facing
  beepers : ∀ cell, cell ∈ copy.beepers ↔ cell ∈ world.beepers ∧ cell ≠ world.robot.position
  ordered : copy.beepers.Pairwise Cell.Before

section
variable {world : World} {cell : Cell} {facing : Direction}

/-- What a cell shows is one of the characters of a map, and no space. -/
theorem charAt_mem : charAt world cell ∈ glyphs ∧ charAt world cell ≠ ' ' := by
  rw [charAt]
  split
  · cases world.robot.facing <;> decide
  · split
    · decide
    · split <;> decide

theorem charAt_eq_glyph_iff :
    charAt world cell = glyph facing ↔ cell = world.robot.position ∧ world.robot.facing = facing := by
  rw [charAt]
  split
  · rename_i here
    cases world.robot.facing <;> cases facing <;> simp [here, glyph]
  · rename_i away
    have plain : beeperGlyph ≠ glyph facing ∧ wallGlyph ≠ glyph facing ∧ emptyGlyph ≠ glyph facing := by
      cases facing <;> decide
    simp only [away, false_and, iff_false]
    split
    · exact plain.1
    · split
      · exact plain.2.1
      · exact plain.2.2

theorem charAt_eq_beeper_iff :
    charAt world cell = '*' ↔ cell ∈ world.beepers ∧ cell ≠ world.robot.position := by
  rw [charAt]
  split
  · rename_i here
    cases world.robot.facing <;> simp [here, glyph]
  · rename_i away
    split
    · rename_i beeper
      simpa [beeperGlyph, away] using beeper
    · rename_i bare
      have absent : cell ∉ world.beepers := by simpa using bare
      split <;> simp [absent, wallGlyph, emptyGlyph]

theorem charAt_eq_wall_iff :
    charAt world cell = '#' ↔ cell ∈ world.walls ∧ cell ∉ world.beepers ∧ cell ≠ world.robot.position := by
  rw [charAt]
  split
  · rename_i here
    cases world.robot.facing <;> simp [here, glyph]
  · rename_i away
    split
    · rename_i beeper
      have present : cell ∈ world.beepers := by simpa using beeper
      simp [present, beeperGlyph]
    · rename_i bare
      have absent : cell ∉ world.beepers := by simpa using bare
      split
      · rename_i wall
        simpa [wallGlyph, absent, away] using wall
      · rename_i open'
        have free : cell ∉ world.walls := by simpa using open'
        simp [free, emptyGlyph]

theorem pointed_charAt : pointed (charAt world cell) = charAt world cell :=
  if_neg charAt_mem.2

/-- The characters of a drawn board are those of its cells. -/
theorem char?_drawRows {x y : Nat} {char : Char} :
    char? (drawRows world) x y = some char ↔
      x < world.width ∧ y < world.height ∧ charAt world ⟨x, y⟩ = char := by
  have row : (drawRows world)[y]? = if y < world.height then some (String.ofList (drawRow world y)) else none := by
    rw [drawRows, List.getElem?_map]
    split <;> simp_all
  have column : (drawRow world y)[x]? = if x < world.width then some (charAt world ⟨x, y⟩) else none := by
    rw [drawRow, List.getElem?_map]
    split <;> simp_all
  rw [char?, row]
  by_cases below : y < world.height
  · by_cases inside : x < world.width <;> simp [below, inside, column]
  · simp [below]

theorem length_of_mem_drawRows {row : String} (member : row ∈ drawRows world) : row.length = world.width := by
  obtain ⟨y, _, rfl⟩ := List.mem_map.mp member
  rw [String.length_ofList, drawRow, List.length_map, List.length_range]

theorem length_drawRows : (drawRows world).length = world.height := by
  rw [drawRows, List.length_map, List.length_range]

theorem exists_drawRows_eq_cons (high : 0 < world.height) :
    ∃ first rest, drawRows world = first :: rest ∧ first.length = world.width := by
  obtain ⟨first, rest, rows⟩ := List.exists_cons_of_length_pos (length_drawRows ▸ high)
  refine ⟨first, rest, rows, length_of_mem_drawRows ?_⟩
  rw [rows]
  exact List.mem_cons_self

theorem width_drawRows (high : 0 < world.height) : width (drawRows world) = world.width := by
  obtain ⟨first, rest, rows, wide⟩ := exists_drawRows_eq_cons high
  rw [rows]
  exact wide

/-- The text of a board is split into its rows again. -/
theorem splitSource_draw (wide : 0 < world.width) : Text.splitSource (draw world) = drawRows world := by
  obtain ⟨lines, lined⟩ : ∃ lines, lines = (drawRows world).map String.toList := ⟨_, rfl⟩
  have text : (draw world).toList = lines.flatMap fun line => line ++ ['\n'] := by
    rw [draw, String.toList_join, lined, List.flatMap_map, List.flatMap_map]
    simp only [String.toList_append]
    rfl
  have plain : ∀ line ∈ lines, ∀ char ∈ line, Text.isLineBreak char = false := by
    have unbroken : (glyphs.all fun char => !Text.isLineBreak char) = true := by decide
    rw [lined]
    simp only [drawRows, drawRow, List.mem_map]
    rintro _ ⟨_, ⟨y, _, rfl⟩, rfl⟩ char member
    rw [String.toList_ofList] at member
    obtain ⟨x, _, rfl⟩ := List.mem_map.mp member
    simpa using List.all_eq_true.mp unbroken _ charAt_mem.1
  have filled : ∀ line, lines.getLast? = some line → line ≠ [] := by
    intro line last
    have member := List.mem_of_getLast? last
    rw [lined] at member
    obtain ⟨row, inside, rfl⟩ := List.mem_map.mp member
    rw [← List.length_pos_iff, String.length_toList, length_of_mem_drawRows inside]
    exact wide
  rw [Text.splitSource, Text.sourceLines, text, Text.splitLinesFrom_lines plain, Text.dropEmptyEnd_eq_self filled,
    lined, List.map_map]
  simp

end

section
variable {rows : List String} {world copy : World} {x y : Nat} {char : Char}

/-- The rows of a map are read as a world. -/
theorem Wellformed.parse (wellformed : Wellformed rows) :
    ∃ world, Map.parse rows = .ok world ∧ Depicts rows world := by
  have outcome := parse_cases rows
  cases parsed : Map.parse rows with
  | error error =>
      rw [parsed] at outcome
      exact absurd wellformed outcome.not_wellformed
  | ok world =>
      rw [parsed] at outcome
      exact ⟨world, rfl, outcome.2⟩

/-- The beepers of a world lie where the rows that are read show them. -/
theorem Depicts.mem_beepers (depicts : Depicts rows world) (even : ∀ row ∈ rows, row.length = Map.width rows)
    {cell : Cell} : cell ∈ world.beepers ↔ ∃ x y : Nat, cell = ⟨x, y⟩ ∧ char? rows x y = some '*' := by
  rw [depicts.beepers, mem_cellsAbove fun row member => Nat.le_of_eq (even row member)]
  constructor
  · rintro ⟨x, y, same, _, shown⟩
    exact ⟨x, y, same, shown⟩
  · rintro ⟨x, y, same, shown⟩
    obtain ⟨_, found, _⟩ := lt_of_char? shown
    exact ⟨x, y, same, (List.getElem?_eq_some_iff.mp found).1, shown⟩

/-- The robot of a world stands where the rows that are read show one. -/
theorem Depicts.robot_iff (wellformed : Wellformed rows) (depicts : Depicts rows world)
    (stands : char? rows x y = some char) : ⟨x, y⟩ = world.robot.position ↔ char ∈ robotGlyphs := by
  obtain ⟨column, row, position, shown⟩ := depicts.robot
  constructor
  · intro here
    obtain ⟨rfl, rfl⟩ := Cell.ofNat_inj.mp (here.trans position)
    rw [stands] at shown
    cases shown
    exact mem_robotGlyphs.mpr ⟨_, rfl⟩
  · intro robot
    obtain ⟨_, _, _, unique⟩ := wellformed.robot
    obtain ⟨rfl, rfl⟩ := unique x y ⟨char, robot, stands⟩
    obtain ⟨rfl, rfl⟩ := unique column row (robotAt_iff.mpr ⟨_, shown⟩)
    exact position.symm

/-- A world that is read shows the characters that it was read from. -/
theorem Depicts.charAt_eq (wellformed : Wellformed rows) (depicts : Depicts rows world)
    (stands : char? rows x y = some char) : charAt world ⟨x, y⟩ = pointed char := by
  obtain ⟨row, found, column⟩ := char?_eq_some.mp stands
  have known := wellformed.known row (List.mem_of_getElem? found) char (List.mem_of_getElem? column)
  have only {glyph : Char} : (∃ x' y' : Nat, (⟨x, y⟩ : Cell) = ⟨x', y'⟩ ∧ char? rows x' y' = some glyph) ↔
      char = glyph := by
    constructor
    · rintro ⟨x', y', same, shown⟩
      obtain ⟨rfl, rfl⟩ := Cell.ofNat_inj.mp same
      exact Option.some.inj (stands.symm.trans shown)
    · rintro rfl
      exact ⟨x, y, rfl, stands⟩
  have beeper := (depicts.mem_beepers wellformed.even).trans only
  have wall := (depicts.walls _).trans only
  have robot := depicts.robot_iff wellformed stands
  by_cases here : ⟨x, y⟩ = world.robot.position
  · obtain ⟨column, row, position, shown⟩ := depicts.robot
    obtain ⟨rfl, rfl⟩ := Cell.ofNat_inj.mp (here.trans position)
    rw [stands] at shown
    cases shown
    rw [charAt, if_pos here]
    cases world.robot.facing <;> rfl
  · have plain : char ∈ ['.', ' ', '#', '*'] :=
      (List.mem_append.mp known).resolve_right fun glyph => here (robot.mpr glyph)
    rw [charAt, if_neg here]
    simp only [List.contains_iff_mem, beeper, wall]
    simp only [List.mem_cons, List.not_mem_nil, or_false] at plain
    rcases plain with rfl | rfl | rfl | rfl <;> rfl

/-- A world that is read is drawn as the rows that it was read from, with points for spaces. -/
theorem Depicts.drawRows_eq (wellformed : Wellformed rows) (depicts : Depicts rows world) :
    drawRows world = rows.map (String.map pointed) := by
  have sizes : (drawRows world).length = rows.length := length_drawRows.trans depicts.height
  apply List.ext_getElem
  · rw [sizes, List.length_map]
  · intro y inside _
    have above : y < rows.length := sizes ▸ inside
    have even : rows[y].length = world.width :=
      (wellformed.even _ (List.getElem_mem above)).trans depicts.width.symm
    apply String.toList_inj.mp
    rw [List.getElem_map, String.toList_map]
    simp only [drawRows, List.getElem_map, List.getElem_range, String.toList_ofList, drawRow]
    apply List.ext_getElem
    · rw [List.length_map, List.length_map, List.length_range, String.length_toList, even]
    · intro x _ inRow
      rw [List.length_map] at inRow
      rw [List.getElem_map, List.getElem_range, List.getElem_map]
      apply depicts.charAt_eq wellformed
      exact char?_eq_some.mpr ⟨rows[y], List.getElem?_eq_getElem above, List.getElem?_eq_getElem inRow⟩

/-- The rows of a board with cells and a robot on one of them are a map. -/
theorem wellformed_drawRows (wide : 0 < world.width) (high : 0 < world.height)
    (robot : world.inBounds world.robot.position = true) : Wellformed (drawRows world) where
  filled := by
    obtain ⟨first, rest, rows, narrow⟩ := exists_drawRows_eq_cons high
    refine ⟨first, rest, rows, ?_⟩
    rintro rfl
    rw [String.length_empty] at narrow
    omega
  even := by
    intro row member
    rw [length_of_mem_drawRows member, width_drawRows high]
  known := by
    intro row member char present
    obtain ⟨y, found⟩ := List.getElem?_of_mem member
    obtain ⟨x, column⟩ := List.getElem?_of_mem present
    obtain ⟨_, _, rfl⟩ := char?_drawRows.mp (char?_eq_some.mpr ⟨row, found, column⟩)
    exact charAt_mem.1
  robot := by
    obtain ⟨x, y, here, inWidth, inHeight⟩ := World.exists_of_inBounds robot
    have shown := charAt_eq_glyph_iff.mpr ⟨here.symm, rfl⟩
    refine ⟨x, y, robotAt_iff.mpr ⟨_, char?_drawRows.mpr ⟨inWidth, inHeight, shown⟩⟩, fun x' y' robotAt => ?_⟩
    obtain ⟨facing, shown'⟩ := robotAt_iff.mp robotAt
    obtain ⟨_, _, shown'⟩ := char?_drawRows.mp shown'
    have there := (charAt_eq_glyph_iff.mp shown').1
    exact Cell.ofNat_inj.mp (there.trans here)

/-- A board that is drawn can be read again. -/
theorem reads_draw (wide : 0 < world.width) (high : 0 < world.height)
    (robot : world.inBounds world.robot.position = true) :
    ∃ copy, parse (Text.splitSource (draw world)) = .ok copy ∧ Depicts (drawRows world) copy := by
  rw [splitSource_draw wide]
  exact (wellformed_drawRows wide high robot).parse

/-- The cells of a character are listed in the order of reading. -/
theorem pairwise_cellsAbove (glyph : Char) (height : Nat) : (cellsAbove rows glyph height).Pairwise Cell.Before := by
  rw [cellsAbove, List.pairwise_flatMap]
  constructor
  · intro y _
    rw [rowCells, List.pairwise_map]
    apply (List.pairwise_lt_range.filter _).imp
    intro x x' before
    exact Or.inr ⟨rfl, Int.ofNat_lt.mpr before⟩
  · apply List.pairwise_lt_range.imp
    intro y y' above cell member cell' member'
    simp only [rowCells, List.mem_map] at member member'
    obtain ⟨_, _, rfl⟩ := member
    obtain ⟨_, _, rfl⟩ := member'
    exact Or.inl (Int.ofNat_lt.mpr above)

/-- A tidy world that is drawn and read again is the same as far as it can be seen. -/
theorem redrawn_of_tidy (tidy : world.Tidy) :
    ∃ copy, parse (Text.splitSource (draw world)) = .ok copy ∧ Redrawn world copy := by
  have robot := tidy.placed.robot.1
  obtain ⟨_, _, _, inWidth, inHeight⟩ := World.exists_of_inBounds robot
  have wide : 0 < world.width := Nat.zero_lt_of_lt inWidth
  have high : 0 < world.height := Nat.zero_lt_of_lt inHeight
  have cells {cell : Cell} {char : Char} (inside : charAt world cell = char → world.inBounds cell = true) :
      (∃ x y : Nat, cell = ⟨x, y⟩ ∧ char? (drawRows world) x y = some char) ↔ charAt world cell = char := by
    constructor
    · rintro ⟨x, y, rfl, shown⟩
      exact (char?_drawRows.mp shown).2.2
    · intro shown
      obtain ⟨x, y, rfl, inWidth, inHeight⟩ := World.exists_of_inBounds (inside shown)
      exact ⟨x, y, rfl, char?_drawRows.mpr ⟨inWidth, inHeight, shown⟩⟩
  obtain ⟨copy, parsed, depicts⟩ := reads_draw wide high robot
  refine ⟨copy, parsed, ?_, ?_, ?_, ?_, ?_, ?_, ?_⟩
  · rw [depicts.width, width_drawRows high]
  · rw [depicts.height, length_drawRows]
  · intro cell
    rw [depicts.walls, cells fun wall => tidy.walls cell (charAt_eq_wall_iff.mp wall).1, charAt_eq_wall_iff]
    refine ⟨fun wall => wall.1, fun wall => ⟨wall, ?_, ?_⟩⟩
    · intro beeper
      exact (tidy.placed.beepers cell beeper).2 wall
    · rintro rfl
      exact tidy.placed.robot.2 wall
  · obtain ⟨x, y, position, shown⟩ := depicts.robot
    rw [position]
    exact (charAt_eq_glyph_iff.mp (char?_drawRows.mp shown).2.2).1
  · obtain ⟨x, y, position, shown⟩ := depicts.robot
    exact (charAt_eq_glyph_iff.mp (char?_drawRows.mp shown).2.2).2.symm
  · intro cell
    rw [depicts.mem_beepers (wellformed_drawRows wide high robot).even,
      cells fun beeper => (tidy.placed.beepers cell (charAt_eq_beeper_iff.mp beeper).1).1, charAt_eq_beeper_iff]
  · rw [depicts.beepers]
    exact pairwise_cellsAbove _ _

end

end Map

namespace World

variable {world next : World} {action : Action}

/-- An action leaves a tidy world tidy. -/
theorem Acts.tidy (acts : world.Acts action next) (tidy : world.Tidy) : next.Tidy := by
  obtain ⟨width, height, walls, _⟩ := acts.frame
  refine ⟨acts.placed tidy.placed, fun cell wall => ?_⟩
  rw [walls] at wall
  rw [inBounds_iff, width, height, ← inBounds_iff]
  exact tidy.walls cell wall

/-- A map that is read is tidy, whatever is put into the bag. -/
theorem tidy_of_parse {rows : List String} {map start : World} {bag : Int} (parsed : Map.parse rows = .ok map)
    (bagged : map.setBag bag = .ok start) : start.Tidy := by
  have placed := (Map.placed_parse parsed).setBag bagged
  obtain ⟨_, rfl⟩ := setBag_eq_ok.mp bagged
  refine ⟨placed, fun cell wall => ?_⟩
  have outcome := Map.parse_cases rows
  rw [parsed] at outcome
  obtain ⟨wellformed, depicts⟩ := outcome
  obtain ⟨x, y, rfl, stands⟩ := (depicts.walls cell).mp wall
  obtain ⟨row, found, inside⟩ := Map.lt_of_char? stands
  rw [wellformed.even row (List.mem_of_getElem? found), ← depicts.width] at inside
  have above := (List.getElem?_eq_some_iff.mp found).1
  rw [← depicts.height] at above
  refine inBounds_iff.mpr ⟨?_, ?_, ?_, ?_⟩ <;> simp only <;> omega

end World

namespace Map

/-- To draw a board and to read it are inverse to each other. What is read is drawn as the rows that it was read
from, with points for spaces. Whatever world is drawn, its text can be read, and is drawn as the same text. If a
program has led to the world from a map, then what is read from its drawing is the world as far as it can be seen. -/
theorem drawing_inverts_reading :
    (∀ rows world, parse rows = .ok world →
      draw world = String.join (rows.map fun row => row.map pointed ++ "\n")) ∧
    (∀ world : World, 0 < world.width → 0 < world.height → world.inBounds world.robot.position = true →
      ∃ copy, parse (Text.splitSource (draw world)) = .ok copy ∧ draw copy = draw world) ∧
    ∀ (program : Program) (registry : Registry) (rows : List String) (bag : Int) (map start : World),
      parse rows = .ok map → map.setBag bag = .ok start →
        (∀ point, program.Passes start registry point →
          ∃ copy, parse (Text.splitSource (draw point.progress.world)) = .ok copy ∧
            Redrawn point.progress.world copy) ∧
        ∀ fuel, ∃ copy, parse (Text.splitSource (draw (program.run fuel start registry).world)) = .ok copy ∧
          Redrawn (program.run fuel start registry).world copy := by
  refine ⟨fun rows world parsed => ?_, fun world wide high robot => ?_, ?_⟩
  · have outcome := parse_cases rows
    rw [parsed] at outcome
    rw [draw, outcome.2.drawRows_eq outcome.1, List.map_map]
    rfl
  · obtain ⟨copy, parsed, depicts⟩ := reads_draw wide high robot
    refine ⟨copy, parsed, ?_⟩
    have same : (drawRows world).map (String.map pointed) = drawRows world := by
      rw [drawRows, List.map_map]
      apply List.map_congr_left
      intro y _
      apply String.toList_inj.mp
      rw [Function.comp_apply, String.toList_map, String.toList_ofList, drawRow, List.map_map]
      exact List.map_congr_left fun x _ => pointed_charAt
    rw [draw, draw, depicts.drawRows_eq (wellformed_drawRows wide high robot), same]
  · intro program registry rows bag map start parsed bagged
    have kept : ∀ (progress : Progress) action world, progress.world.perform action = .ok world →
        progress.world.Tidy → world.Tidy := by
      intro progress action world performed tidy
      exact (World.acts_of_perform performed).tidy tidy
    have tidy := World.tidy_of_parse parsed bagged
    refine ⟨fun point passes => ?_, fun fuel => ?_⟩
    · exact redrawn_of_tidy (passes.keeps kept tidy)
    · exact redrawn_of_tidy (Program.keeps_run kept fuel tidy)

/-- A world with a wall under the robot and one under two beepers, and with more of both off the grid. -/
def crowded : World :=
  ⟨2, 2, ⟨⟨1, 0⟩, .west, 3⟩, [⟨1, 0⟩, ⟨0, 1⟩, ⟨5, 5⟩], [⟨0, 1⟩, ⟨0, 1⟩, ⟨-1, 0⟩], 4⟩

/-- The world of a map with two beepers in the bag. -/
def laden : World :=
  ⟨3, 2, ⟨⟨0, 0⟩, .east, 2⟩, [⟨0, 1⟩], [⟨2, 0⟩], 0⟩

theorem drawing_inverts_reading_tour :
    (∃ map, parse [">.*", "# ."] = .ok map ∧ map.setBag 2 = .ok laden ∧ draw map = ">.*\n#..\n" ∧
      (Program.tour.run 100 laden {}).actions = [.move, .move, .pickBeeper] ∧
      ∃ copy, parse (Text.splitSource (draw (Program.tour.run 100 laden {}).world)) = .ok copy ∧
        Redrawn (Program.tour.run 100 laden {}).world copy) ∧
    draw crowded = ".<\n*.\n" ∧
    ∃ copy, parse (Text.splitSource (draw crowded)) = .ok copy ∧ draw copy = draw crowded := by
  have parsed : parse [">.*", "# ."] = .ok { laden with robot.bag := 0 } := by decide +kernel
  have bagged : World.setBag { laden with robot.bag := 0 } 2 = .ok laden := by decide
  refine ⟨⟨_, parsed, bagged, ?_, by decide +kernel, ?_⟩, by decide +kernel, ?_⟩
  · exact (drawing_inverts_reading.1 _ _ parsed).trans (by decide +kernel)
  · exact (drawing_inverts_reading.2.2 Program.tour {} _ 2 _ _ parsed bagged).2 100
  · exact drawing_inverts_reading.2.1 crowded (by decide) (by decide) (by decide)

end Map

end GridRobot
