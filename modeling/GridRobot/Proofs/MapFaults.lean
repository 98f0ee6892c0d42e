import GridRobot.Proofs.MapReading
import Mathlib.Data.List.Nodup
import Mathlib.Data.List.Range

namespace GridRobot

namespace Map

/-- The characters of a robot that faces north, south, west and east. -/
def robotGlyphs : List Char := ['^', 'v', '<', '>']

/-- The characters that a map may hold. -/
def glyphs : List Char := ['.', ' ', '#', '*'] ++ robotGlyphs

/-- The width of the first row. -/
def width (rows : List String) : Nat :=
  (rows.head?.map String.length).getD 0

/-- The character in column `x` of row `y`. -/
def char? (rows : List String) (x y : Nat) : Option Char :=
  rows[y]?.bind fun row => row.toList[x]?

/-- The cells of a character among the first columns of a row, from the left. -/
def rowCells (rows : List String) (glyph : Char) (y columns : Nat) : List Cell :=
  ((List.range columns).filter fun x => char? rows x y = some glyph).map fun x : Nat => ⟨x, y⟩

/-- The cells of a character in the first rows, row by row. -/
def cellsAbove (rows : List String) (glyph : Char) (height : Nat) : List Cell :=
  (List.range height).flatMap fun y => rowCells rows glyph y (width rows)

/-- A robot stands in column `x` of row `y`. -/
def RobotAt (rows : List String) (x y : Nat) : Prop :=
  ∃ char ∈ robotGlyphs, char? rows x y = some char

/-- Rows that are a map: as wide as the first, which is not empty, with known characters and one robot. -/
structure Wellformed (rows : List String) : Prop where
  filled : ∃ first rest, rows = first :: rest ∧ first ≠ ""
  even : ∀ row ∈ rows, row.length = width rows
  known : ∀ row ∈ rows, ∀ char ∈ row.toList, char ∈ glyphs
  robot : ∃ x y, RobotAt rows x y ∧ ∀ x' y', RobotAt rows x' y' → x' = x ∧ y' = y

/-- The world is what the rows show. -/
structure Depicts (rows : List String) (world : World) : Prop where
  width : world.width = Map.width rows
  height : world.height = rows.length
  walls : ∀ cell, cell ∈ world.walls ↔ ∃ x y : Nat, cell = ⟨x, y⟩ ∧ char? rows x y = some '#'
  beepers : world.beepers = cellsAbove rows '*' rows.length
  distinct : world.beepers.Nodup
  robot : ∃ x y : Nat, world.robot.position = ⟨x, y⟩ ∧ char? rows x y = some (glyph world.robot.facing)
  bag : world.robot.bag = 0
  steps : world.steps = 0

/-- The order of reading, by rows and then by places in a row. -/
def Precedes (row place row' place' : Nat) : Prop :=
  row < row' ∨ row = row' ∧ place < place'

/-- What is wrong with a place of the rows, and how it is reported. The width of a row is its place `0`, and the
character in column `x` is place `x + 1`; a robot is wrong if there is another one before it. -/
inductive Flaw (rows : List String) : Nat → Nat → MapError → Prop where
  | uneven {y : Nat} {row : String} (found : rows[y]? = some row) (uneven : row.length ≠ width rows) :
      Flaw rows y 0 ⟨.unevenRow (y + 1), some (y + 1)⟩
  | unknown {x y : Nat} {char : Char} (found : char? rows x y = some char) (unknown : char ∉ glyphs) :
      Flaw rows y (x + 1) ⟨.unknownCharacter char (y + 1) (x + 1), some (y + 1)⟩
  | second {x y x' y' : Nat} (robot : RobotAt rows x y) (other : RobotAt rows x' y')
      (before : Precedes y' x' y x) : Flaw rows y (x + 1) ⟨.manyRobots, some (y + 1)⟩

/-- Nothing is wrong before a place. -/
def Clear (rows : List String) (row place : Nat) : Prop :=
  ∀ row' place' error, Flaw rows row' place' error → ¬ Precedes row' place' row place

/-- The fault that comes first: no rows, an empty first row, the first flaw in the order of reading, and only if there
is none of them, that there is no robot. -/
inductive FirstFault : List String → MapError → Prop where
  | empty : FirstFault [] ⟨.empty, none⟩
  | emptyFirstRow {rest : List String} : FirstFault ("" :: rest) ⟨.emptyFirstRow, none⟩
  | flaw {first : String} {rest : List String} {row place : Nat} {error : MapError} (filled : first ≠ "")
      (flaw : Flaw (first :: rest) row place error) (earliest : Clear (first :: rest) row place) :
      FirstFault (first :: rest) error
  | noRobot {first : String} {rest : List String} (filled : first ≠ "")
      (flawless : ∀ row place error, ¬ Flaw (first :: rest) row place error)
      (missing : ∀ x y, ¬ RobotAt (first :: rest) x y) : FirstFault (first :: rest) ⟨.noRobot, none⟩

/-- What has been read when column `x` of row `y` comes next. -/
structure Reading.Covers (rows : List String) (y x : Nat) (reading : Reading) : Prop where
  walls : reading.walls.reverse = cellsAbove rows '#' y ++ rowCells rows '#' y x
  beepers : reading.beepers.reverse = cellsAbove rows '*' y ++ rowCells rows '*' y x
  found : ∀ robot, reading.robot = some robot → ∃ x' y' : Nat, Precedes y' x' y x ∧
    robot.position = ⟨x', y'⟩ ∧ char? rows x' y' = some (glyph robot.facing) ∧ robot.bag = 0
  unseen : reading.robot = none → ∀ x' y', RobotAt rows x' y' → ¬ Precedes y' x' y x

section
variable {rows : List String} {x y : Nat} {char : Char}

theorem char?_eq_some : char? rows x y = some char ↔ ∃ row, rows[y]? = some row ∧ row.toList[x]? = some char := by
  rw [char?, Option.bind_eq_some_iff]

theorem facing?_eq_some {facing : Direction} : facing? char = some facing ↔ char = glyph facing := by
  constructor
  · intro found
    have same := List.find?_some found
    exact (of_decide_eq_true same).symm
  · rintro rfl
    cases facing <;> rfl

theorem mem_robotGlyphs : char ∈ robotGlyphs ↔ ∃ facing, char = glyph facing := by
  constructor
  · intro member
    simp only [robotGlyphs, List.mem_cons, List.not_mem_nil, or_false] at member
    rcases member with rfl | rfl | rfl | rfl
    exacts [⟨.north, rfl⟩, ⟨.south, rfl⟩, ⟨.west, rfl⟩, ⟨.east, rfl⟩]
  · rintro ⟨facing, rfl⟩
    cases facing <;> decide

/-- The characters of empty cells are known and stand for nothing. -/
theorem plain_of_isEmptyGlyph (empty : isEmptyGlyph char = true) :
    char ∈ glyphs ∧ char ∉ robotGlyphs ∧ char ≠ '#' ∧ char ≠ '*' := by
  simp only [isEmptyGlyph, Bool.or_eq_true, decide_eq_true_eq] at empty
  rcases empty with rfl | rfl <;> decide

/-- A character that stands for nothing that can be read is not known. -/
theorem not_mem_glyphs (visible : ¬ isEmptyGlyph char = true) (noWall : ¬ char = wallGlyph)
    (noBeeper : ¬ char = beeperGlyph) (strange : facing? char = none) : char ∉ glyphs := by
  intro known
  rcases List.mem_append.mp known with plain | robot
  · simp only [List.mem_cons, List.not_mem_nil, or_false] at plain
    rcases plain with rfl | rfl | rfl | rfl
    · exact visible rfl
    · exact visible rfl
    · exact noWall rfl
    · exact noBeeper rfl
  · obtain ⟨facing, same⟩ := mem_robotGlyphs.mp robot
    rw [facing?_eq_some.mpr same] at strange
    cases strange

/-- A character stands in a row that is there, in one of its columns. -/
theorem lt_of_char? (stands : char? rows x y = some char) : ∃ row, rows[y]? = some row ∧ x < row.length := by
  obtain ⟨row, found, column⟩ := char?_eq_some.mp stands
  refine ⟨row, found, ?_⟩
  rw [← String.length_toList]
  exact (List.getElem?_eq_some_iff.mp column).1

theorem RobotAt.bounds (robot : RobotAt rows x y) : ∃ row, rows[y]? = some row ∧ x < row.length := by
  obtain ⟨char, _, stands⟩ := robot
  exact lt_of_char? stands

theorem robotAt_iff : RobotAt rows x y ↔ ∃ facing, char? rows x y = some (glyph facing) := by
  simp only [RobotAt, mem_robotGlyphs]
  constructor
  · rintro ⟨_, ⟨facing, rfl⟩, found⟩
    exact ⟨facing, found⟩
  · rintro ⟨facing, found⟩
    exact ⟨_, ⟨facing, rfl⟩, found⟩

theorem Precedes.trichotomy (row place row' place' : Nat) :
    Precedes row place row' place' ∨ (row = row' ∧ place = place') ∨ Precedes row' place' row place := by
  simp only [Precedes]
  omega

theorem rowCells_succ (glyph : Char) : rowCells rows glyph y (x + 1) =
    rowCells rows glyph y x ++ if char? rows x y = some glyph then [⟨x, y⟩] else [] := by
  rw [rowCells, rowCells, List.range_succ, List.filter_append, List.map_append]
  by_cases stands : char? rows x y = some glyph <;> simp [stands]

theorem cellsAbove_succ (glyph : Char) :
    cellsAbove rows glyph (y + 1) = cellsAbove rows glyph y ++ rowCells rows glyph y (width rows) := by
  rw [cellsAbove, cellsAbove, List.range_succ, List.flatMap_append, List.flatMap_singleton]

/-- A cell of a character is where the character stands, if the rows are not too wide. -/
theorem mem_cellsAbove {glyph : Char} {height : Nat} {cell : Cell}
    (narrow : ∀ row ∈ rows, row.length ≤ width rows) :
    cell ∈ cellsAbove rows glyph height ↔
      ∃ x y : Nat, cell = ⟨x, y⟩ ∧ y < height ∧ char? rows x y = some glyph := by
  simp only [cellsAbove, rowCells, List.mem_flatMap, List.mem_map, List.mem_filter, List.mem_range,
    decide_eq_true_eq]
  constructor
  · rintro ⟨y, above, x, ⟨_, stands⟩, rfl⟩
    exact ⟨x, y, rfl, above, stands⟩
  · rintro ⟨x, y, rfl, above, stands⟩
    refine ⟨y, above, x, ⟨?_, stands⟩, rfl⟩
    obtain ⟨row, found, inside⟩ := lt_of_char? stands
    exact Nat.lt_of_lt_of_le inside (narrow row (List.mem_of_getElem? found))

/-- No cell is listed twice. -/
theorem nodup_cellsAbove (glyph : Char) (height : Nat) : (cellsAbove rows glyph height).Nodup := by
  rw [cellsAbove, List.nodup_flatMap]
  constructor
  · intro y _
    apply (List.nodup_range.filter _).map
    intro x x' same
    exact Int.ofNat_inj.mp (congrArg Cell.x same)
  · apply List.nodup_range.imp
    intro y y' different cell member member'
    simp only [rowCells, List.mem_map] at member member'
    obtain ⟨x, _, rfl⟩ := member
    obtain ⟨x', _, same⟩ := member'
    exact different (Int.ofNat_inj.mp (congrArg Cell.y same).symm)

end

namespace Reading.Covers

variable {rows : List String} {x y : Nat} {char : Char} {reading next : Reading}

/-- What is read of a character is what the character stands for. -/
theorem advance (covers : reading.Covers rows y x) (stands : char? rows x y = some char)
    (walls : next.walls = if char = '#' then ⟨x, y⟩ :: reading.walls else reading.walls)
    (beepers : next.beepers = if char = '*' then ⟨x, y⟩ :: reading.beepers else reading.beepers)
    (robot : char ∉ robotGlyphs ∧ next.robot = reading.robot ∨
      ∃ facing, char = glyph facing ∧ next.robot = some ⟨⟨x, y⟩, facing, 0⟩) :
    next.Covers rows y (x + 1) where
  walls := by
    rw [rowCells_succ, ← List.append_assoc, ← covers.walls, walls, stands]
    by_cases wall : char = '#' <;> simp [wall]
  beepers := by
    rw [rowCells_succ, ← List.append_assoc, ← covers.beepers, beepers, stands]
    by_cases beeper : char = '*' <;> simp [beeper]
  found := by
    intro found seen
    rcases robot with ⟨_, same⟩ | ⟨facing, rfl, same⟩
    · rw [same] at seen
      obtain ⟨x', y', before, rest⟩ := covers.found found seen
      exact ⟨x', y', by simp only [Precedes] at before ⊢; omega, rest⟩
    · rw [same] at seen
      cases seen
      exact ⟨x, y, Or.inr ⟨rfl, Nat.lt_succ_self x⟩, rfl, stands, rfl⟩
  unseen := by
    intro none x' y' robotAt before
    rcases robot with ⟨other, same⟩ | ⟨facing, _, same⟩
    · rw [same] at none
      have last : x' = x ∧ y' = y := by
        have earlier := covers.unseen none x' y' robotAt
        simp only [Precedes] at before earlier
        omega
      obtain ⟨rfl, rfl⟩ := last
      obtain ⟨char', member, stands'⟩ := robotAt
      rw [stands] at stands'
      cases stands'
      exact other member
    · rw [same] at none
      cases none

end Reading.Covers

section
variable {rows : List String} {x y : Nat} {char : Char} {error : MapError}

/-- A known character that is not a second robot is no flaw. -/
theorem not_flaw (stands : char? rows x y = some char) (known : char ∈ glyphs)
    (lone : char ∈ robotGlyphs → ∀ x' y', RobotAt rows x' y' → ¬ Precedes y' x' y x) :
    ¬ Flaw rows y (x + 1) error := by
  intro flaw
  cases flaw with
  | unknown found unknown =>
      rw [stands] at found
      cases found
      exact unknown known
  | second robot other before =>
      obtain ⟨char', member, found⟩ := robot
      rw [stands] at found
      cases found
      exact lone member _ _ other before

theorem Clear.succ {place : Nat} (clear : Clear rows y place) (fine : ∀ error, ¬ Flaw rows y place error) :
    Clear rows y (place + 1) := by
  intro row' place' error flaw before
  have earlier := clear row' place' error flaw
  have last : row' = y ∧ place' = place := by
    simp only [Precedes] at before earlier
    omega
  obtain ⟨rfl, rfl⟩ := last
  exact fine error flaw

/-- Flaws are flaws of rows that are there, and of columns that they have. -/
theorem Flaw.bounds {place : Nat} (flaw : Flaw rows y place error) :
    ∃ row, rows[y]? = some row ∧ place ≤ row.length := by
  cases flaw with
  | uneven found uneven => exact ⟨_, found, Nat.zero_le _⟩
  | unknown found unknown => exact lt_of_char? found
  | second robot other before => exact robot.bounds

/-- Behind the last column the next row starts. -/
theorem Clear.nextRow {row : String} (found : rows[y]? = some row) (clear : Clear rows y (row.length + 1)) :
    Clear rows (y + 1) 0 := by
  intro row' place' error flaw before
  apply clear row' place' error flaw
  by_cases same : row' = y
  · subst same
    obtain ⟨row', found', inside⟩ := flaw.bounds
    rw [found] at found'
    cases found'
    exact Or.inr ⟨rfl, Nat.lt_succ_of_le inside⟩
  · simp only [Precedes] at before ⊢
    omega

end

namespace Reading.Covers

variable {rows : List String} {x y : Nat} {char : Char} {reading : Reading}

/-- The rest of a row is read up to its end, or up to its first flaw. -/
theorem readRow {chars : List Char} (covers : reading.Covers rows y x) (clear : Clear rows y (x + 1))
    (stands : ∀ offset, char? rows (x + offset) y = chars[offset]?) :
    match Map.readRow y x chars reading with
    | .ok next => next.Covers rows y (x + chars.length) ∧ Clear rows y (x + chars.length + 1)
    | .error error => ∃ place, Flaw rows y place error ∧ Clear rows y place := by
  have rest {x : Nat} {char : Char} {rest : List Char}
      (stands : ∀ offset, char? rows (x + offset) y = (char :: rest)[offset]?) :
      char? rows x y = some char ∧ ∀ offset, char? rows (x + 1 + offset) y = rest[offset]? := by
    refine ⟨stands 0, fun offset => ?_⟩
    rw [Nat.add_assoc, Nat.add_comm 1]
    exact stands (offset + 1)
  have onward (x : Nat) (char : Char) (rest : List Char) :
      x + (char :: rest).length = x + 1 + rest.length := by
    rw [List.length_cons]
    omega
  fun_induction Map.readRow y x chars reading with
  | case1 x reading => exact ⟨covers, clear⟩
  | case2 x char rest' reading empty inductionHypothesis =>
      obtain ⟨here, later⟩ := rest stands
      obtain ⟨known, other, noWall, noBeeper⟩ := plain_of_isEmptyGlyph empty
      rw [onward]
      apply inductionHypothesis _ (clear.succ fun error => not_flaw here known fun robot => absurd robot other) later
      exact covers.advance here (if_neg noWall).symm (if_neg noBeeper).symm (Or.inl ⟨other, rfl⟩)
  | case3 x rest' reading cell visible inductionHypothesis =>
      obtain ⟨here, later⟩ := rest stands
      have other : wallGlyph ∉ robotGlyphs := by decide
      rw [onward]
      apply inductionHypothesis _
        (clear.succ fun error => not_flaw here (by decide) fun robot => absurd robot other) later
      exact covers.advance here rfl rfl (Or.inl ⟨other, rfl⟩)
  | case4 x rest' reading cell visible different inductionHypothesis =>
      obtain ⟨here, later⟩ := rest stands
      have other : beeperGlyph ∉ robotGlyphs := by decide
      rw [onward]
      apply inductionHypothesis _
        (clear.succ fun error => not_flaw here (by decide) fun robot => absurd robot other) later
      exact covers.advance here rfl rfl (Or.inl ⟨other, rfl⟩)
  | case5 x char rest' reading cell visible noWall noBeeper facing first found inductionHypothesis =>
      obtain ⟨here, later⟩ := rest stands
      have robot : char = glyph facing := facing?_eq_some.mp found
      have known : char ∈ glyphs := List.mem_append_right _ (mem_robotGlyphs.mpr ⟨facing, robot⟩)
      rw [onward]
      apply inductionHypothesis _ (clear.succ fun error => not_flaw here known fun _ => covers.unseen first) later
      exact covers.advance here (if_neg noWall).symm (if_neg noBeeper).symm (Or.inr ⟨facing, robot, rfl⟩)
  | case6 x char rest' reading visible noWall noBeeper facing robot seen found =>
      obtain ⟨here, _⟩ := rest stands
      obtain ⟨x', y', before, _, other, _⟩ := covers.found robot seen
      have robotAt : RobotAt rows x y := robotAt_iff.mpr ⟨facing, facing?_eq_some.mp found ▸ here⟩
      exact ⟨x + 1, .second robotAt (robotAt_iff.mpr ⟨_, other⟩) before, clear⟩
  | case7 x char rest' reading visible noWall noBeeper strange =>
      obtain ⟨here, _⟩ := rest stands
      refine ⟨x + 1, .unknown here ?_, clear⟩
      exact not_mem_glyphs visible noWall noBeeper strange

/-- What has been read of a whole row is what comes before the next one. -/
theorem nextRow {row : String} (covers : reading.Covers rows y (width rows)) (found : rows[y]? = some row)
    (even : row.length = width rows) : reading.Covers rows (y + 1) 0 where
  walls := by
    rw [covers.walls, cellsAbove_succ]
    simp [rowCells]
  beepers := by
    rw [covers.beepers, cellsAbove_succ]
    simp [rowCells]
  found := by
    intro robot seen
    obtain ⟨x', y', before, rest⟩ := covers.found robot seen
    exact ⟨x', y', by simp only [Precedes] at before ⊢; omega, rest⟩
  unseen := by
    intro none x' y' robotAt before
    apply covers.unseen none x' y' robotAt
    by_cases same : y' = y
    · subst same
      obtain ⟨row', found', inside⟩ := robotAt.bounds
      rw [found] at found'
      cases found'
      exact Or.inr ⟨rfl, even ▸ inside⟩
    · simp only [Precedes] at before ⊢
      omega

/-- A row of the right width is read up to the next row, or up to its first flaw. -/
theorem wholeRow {row : String} (covers : reading.Covers rows y 0) (clear : Clear rows y 0)
    (found : rows[y]? = some row) (even : row.length = width rows) :
    match Map.readRow y 0 row.toList reading with
    | .ok next => next.Covers rows (y + 1) 0 ∧ Clear rows (y + 1) 0
    | .error error => ∃ place, Flaw rows y place error ∧ Clear rows y place := by
  have entered : Clear rows y (0 + 1) := by
    apply clear.succ
    intro error flaw
    cases flaw with
    | uneven found' uneven =>
        rw [found] at found'
        cases found'
        exact uneven even
  have stands (offset : Nat) : char? rows (0 + offset) y = row.toList[offset]? := by
    rw [char?, found, Nat.zero_add, Option.bind_some]
  have whole := covers.readRow entered stands
  split at whole
  · rename_i next read
    obtain ⟨covers, clear⟩ := whole
    rw [Nat.zero_add, String.length_toList] at covers clear
    rw [even] at covers
    exact ⟨covers.nextRow found even, clear.nextRow found⟩
  · exact whole

/-- Rows are read from the top to the bottom, or up to the first flaw. -/
theorem readRows {below : List String} (covers : reading.Covers rows y 0) (clear : Clear rows y 0)
    (stands : ∀ offset, rows[y + offset]? = below[offset]?) :
    match Map.readRows (width rows) y below reading with
    | .ok next => next.Covers rows (y + below.length) 0 ∧ Clear rows (y + below.length) 0
    | .error error => ∃ row place, Flaw rows row place error ∧ Clear rows row place := by
  fun_induction Map.readRows (width rows) y below reading with
  | case1 y reading => exact ⟨covers, clear⟩
  | case2 y row rest reading uneven => exact ⟨y, 0, .uneven (stands 0) uneven, clear⟩
  | case3 y row rest reading even error refused =>
      have whole := covers.wholeRow clear (stands 0) (Decidable.not_not.mp even)
      rw [refused] at whole
      exact ⟨y, whole⟩
  | case4 y row rest reading even next read inductionHypothesis =>
      have whole := covers.wholeRow clear (stands 0) (Decidable.not_not.mp even)
      rw [read] at whole
      have later (offset : Nat) : rows[y + 1 + offset]? = rest[offset]? := by
        rw [Nat.add_assoc, Nat.add_comm 1]
        exact stands (offset + 1)
      rw [List.length_cons, Nat.add_comm rest.length, ← Nat.add_assoc]
      exact inductionHypothesis whole.1 whole.2 later

theorem start (rows : List String) : ({} : Reading).Covers rows 0 0 where
  walls := rfl
  beepers := rfl
  found := nofun
  unseen := by
    intro _ x' y' _ before
    simp only [Precedes] at before
    omega

end Reading.Covers

section
variable {rows : List String} {error other : MapError} {world : World}

/-- Nothing is wrong behind the last row. -/
theorem Clear.flawless (clear : Clear rows rows.length 0) (row place : Nat) (error : MapError) :
    ¬ Flaw rows row place error := by
  intro flaw
  obtain ⟨_, found, _⟩ := flaw.bounds
  exact clear row place error flaw (Or.inl (List.getElem?_eq_some_iff.mp found).1)

/-- Where nothing is wrong, rows with a robot are a map. -/
theorem wellformed_of_flawless (filled : ∃ first rest, rows = first :: rest ∧ first ≠ "")
    (flawless : ∀ row place error, ¬ Flaw rows row place error) {x y : Nat} (robot : RobotAt rows x y) :
    Wellformed rows where
  filled := filled
  even := by
    intro row member
    obtain ⟨y, found⟩ := List.getElem?_of_mem member
    by_contra uneven
    exact flawless _ _ _ (.uneven found uneven)
  known := by
    intro row member char present
    obtain ⟨y, found⟩ := List.getElem?_of_mem member
    obtain ⟨x, column⟩ := List.getElem?_of_mem present
    by_contra unknown
    exact flawless _ _ _ (.unknown (char?_eq_some.mpr ⟨row, found, column⟩) unknown)
  robot := by
    refine ⟨x, y, robot, fun x' y' robot' => ?_⟩
    rcases Precedes.trichotomy y' x' y x with before | ⟨sameRow, sameColumn⟩ | before
    · exact absurd (.second robot robot' before) (flawless _ _ _)
    · exact ⟨sameColumn, sameRow⟩
    · exact absurd (.second robot' robot before) (flawless _ _ _)

/-- There is nothing wrong with a map. -/
theorem Wellformed.flawless (wellformed : Wellformed rows) (row place : Nat) (error : MapError) :
    ¬ Flaw rows row place error := by
  intro flaw
  cases flaw with
  | uneven found uneven => exact uneven (wellformed.even _ (List.mem_of_getElem? found))
  | unknown found unknown =>
      obtain ⟨row, found, column⟩ := char?_eq_some.mp found
      exact unknown (wellformed.known row (List.mem_of_getElem? found) _ (List.mem_of_getElem? column))
  | second robot other before =>
      obtain ⟨x, y, _, only⟩ := wellformed.robot
      obtain ⟨rfl, rfl⟩ := only _ _ robot
      obtain ⟨rfl, rfl⟩ := only _ _ other
      simp only [Precedes] at before
      omega

/-- A place has one flaw at most. -/
theorem Flaw.unique {row place : Nat} (flaw : Flaw rows row place error) (flaw' : Flaw rows row place other) :
    error = other := by
  have known {x y : Nat} {char : Char} (robot : RobotAt rows x y) (stands : char? rows x y = some char) :
      char ∈ glyphs := by
    obtain ⟨char', member, stands'⟩ := robot
    rw [stands] at stands'
    cases stands'
    exact List.mem_append_right _ member
  cases flaw with
  | uneven found uneven =>
      cases flaw' with
      | uneven found' uneven' => rfl
  | unknown found unknown =>
      cases flaw' with
      | unknown found' unknown' =>
          rw [found] at found'
          cases found'
          rfl
      | second robot other before => exact absurd (known robot found) unknown
  | second robot other before =>
      cases flaw' with
      | unknown found unknown => exact absurd (known robot found) unknown
      | second robot' other' before' => rfl

/-- There is one first fault at most. -/
theorem FirstFault.unique (fault : FirstFault rows error) (fault' : FirstFault rows other) : error = other := by
  cases fault with
  | empty =>
      cases fault' with
      | empty => rfl
  | emptyFirstRow =>
      cases fault' with
      | emptyFirstRow => rfl
      | flaw filled flaw earliest => exact absurd rfl filled
      | noRobot filled flawless missing => exact absurd rfl filled
  | @flaw first rest row place _ filled flaw earliest =>
      cases fault' with
      | emptyFirstRow => exact absurd rfl filled
      | @flaw _ _ row' place' _ _ flaw' earliest' =>
          rcases Precedes.trichotomy row place row' place' with before | ⟨rfl, rfl⟩ | before
          · exact absurd before (earliest' _ _ _ flaw)
          · exact flaw.unique flaw'
          · exact absurd before (earliest _ _ _ flaw')
      | noRobot _ flawless missing => exact absurd flaw (flawless _ _ _)
  | noRobot filled flawless missing =>
      cases fault' with
      | emptyFirstRow => exact absurd rfl filled
      | flaw _ flaw earliest => exact absurd flaw (flawless _ _ _)
      | noRobot _ flawless' missing' => rfl

/-- A map has no fault. -/
theorem FirstFault.not_wellformed (fault : FirstFault rows error) : ¬ Wellformed rows := by
  intro wellformed
  cases fault with
  | empty =>
      obtain ⟨_, _, filled, _⟩ := wellformed.filled
      cases filled
  | emptyFirstRow =>
      obtain ⟨_, _, filled, text⟩ := wellformed.filled
      cases filled
      exact text rfl
  | flaw filled flaw earliest => exact wellformed.flawless _ _ _ flaw
  | noRobot filled flawless missing =>
      obtain ⟨x, y, robot, _⟩ := wellformed.robot
      exact missing x y robot

/-- What has been read of all rows is what they show. -/
theorem Reading.Covers.depicts {reading : Reading} {robot : Robot} (covers : reading.Covers rows rows.length 0)
    (seen : reading.robot = some robot) (even : ∀ row ∈ rows, row.length = Map.width rows) :
    Depicts rows ⟨Map.width rows, rows.length, robot, reading.walls.reverse, reading.beepers.reverse, 0⟩ := by
  have whole (glyph : Char) : cellsAbove rows glyph rows.length ++ rowCells rows glyph rows.length 0 =
      cellsAbove rows glyph rows.length := List.append_nil _
  obtain ⟨x, y, _, position, stands, empty⟩ := covers.found robot seen
  refine ⟨rfl, rfl, fun cell => ?_, ?_, ?_, ⟨x, y, position, stands⟩, empty, rfl⟩
  · show cell ∈ reading.walls.reverse ↔ _
    rw [covers.walls, whole, mem_cellsAbove fun row member => Nat.le_of_eq (even row member)]
    constructor
    · rintro ⟨x, y, rfl, _, stands⟩
      exact ⟨x, y, rfl, stands⟩
    · rintro ⟨x, y, rfl, stands⟩
      obtain ⟨row, found, _⟩ := lt_of_char? stands
      exact ⟨x, y, rfl, (List.getElem?_eq_some_iff.mp found).1, stands⟩
  · exact covers.beepers.trans (whole _)
  · show reading.beepers.reverse.Nodup
    rw [covers.beepers, whole]
    exact nodup_cellsAbove _ _

/-- Rows are read as the map that they are, or refused for their first fault. -/
theorem parse_cases (rows : List String) :
    match parse rows with
    | .ok world => Wellformed rows ∧ Depicts rows world
    | .error error => FirstFault rows error := by
  cases rows with
  | nil => exact .empty
  | cons first rest =>
      by_cases blank : first.length = 0
      · obtain rfl : first = "" := String.length_eq_zero_iff.mp blank
        exact .emptyFirstRow
      · have filled : first ≠ "" := fun same => blank (String.length_eq_zero_iff.mpr same)
        have clear : Clear (first :: rest) 0 0 := by
          intro row place error flaw before
          simp only [Precedes] at before
          omega
        have outcome : match readRows first.length 0 (first :: rest) {} with
            | .ok next => next.Covers (first :: rest) (0 + (first :: rest).length) 0 ∧
                Clear (first :: rest) (0 + (first :: rest).length) 0
            | .error error => ∃ row place, Flaw (first :: rest) row place error ∧ Clear (first :: rest) row place :=
          (Reading.Covers.start (first :: rest)).readRows clear fun offset => by rw [Nat.zero_add]
        rw [parse, if_neg blank]
        cases read : readRows first.length 0 (first :: rest) {} with
        | error error =>
            rw [read] at outcome
            obtain ⟨row, place, flaw, earliest⟩ := outcome
            exact .flaw filled flaw earliest
        | ok reading =>
            rw [read, Nat.zero_add] at outcome
            obtain ⟨covers, clear⟩ := outcome
            cases seen : reading.robot with
            | none =>
                simp only [seen]
                refine .noRobot filled clear.flawless fun x y robot => ?_
                obtain ⟨_, found, _⟩ := robot.bounds
                exact covers.unseen seen x y robot (Or.inl (List.getElem?_eq_some_iff.mp found).1)
            | some robot =>
                simp only [seen]
                obtain ⟨x, y, _, _, stands, _⟩ := covers.found robot seen
                have wellformed := wellformed_of_flawless ⟨first, rest, rfl, filled⟩ clear.flawless
                  (robotAt_iff.mpr ⟨_, stands⟩)
                exact ⟨wellformed, covers.depicts seen wellformed.even⟩

/-- A world that is read passes the checks of a world that is created. -/
theorem create_of_parse (parsed : parse rows = .ok world) :
    World.create world.width world.height world.robot world.walls world.beepers = .ok world := by
  have outcome := parse_cases rows
  rw [parsed] at outcome
  obtain ⟨wellformed, depicts⟩ := outcome
  obtain ⟨first, rest, rfl, text⟩ := wellformed.filled
  have wide : 0 < world.width := by
    rw [depicts.width]
    exact Nat.pos_of_ne_zero fun blank => text (String.length_eq_zero_iff.mp blank)
  have high : 0 < world.height := by
    rw [depicts.height]
    exact Nat.succ_pos _
  have same : (⟨(world.width : Int).toNat, (world.height : Int).toNat, world.robot, world.walls, world.beepers, 0⟩ :
      World) = world := by
    rw [← depicts.steps]
    rfl
  have large : (decide ((world.width : Int) < 1) || decide ((world.height : Int) < 1)) = false := by
    simp only [Bool.or_eq_false_iff, decide_eq_false_iff_not]
    omega
  rw [World.create]
  simp only [same, large, (placed_parse parsed).robot.1, Bool.not_true, Bool.false_eq_true, if_false]

end

/-- Exactly the valid maps are read, and other rows are refused for their first fault. A map is read as the world that
it shows, which passes every check of a created world. Whatever rows are refused for is the first fault in the order
of reading, where the width of a row comes before its characters, a second robot or an unknown character is reported
with its own row, and a missing robot only if nothing else is wrong. -/
theorem parse_reports_first_fault (rows : List String) :
    ((∃ world, parse rows = .ok world) ↔ Wellformed rows) ∧
    (∀ world, parse rows = .ok world → Depicts rows world ∧
      World.create world.width world.height world.robot world.walls world.beepers = .ok world) ∧
    ∀ error, parse rows = .error error ↔ FirstFault rows error := by
  have outcome := parse_cases rows
  cases parsed : parse rows with
  | error error =>
      rw [parsed] at outcome
      refine ⟨⟨?_, ?_⟩, nofun, fun other => ⟨?_, ?_⟩⟩
      · rintro ⟨world, read⟩
        cases read
      · intro wellformed
        exact absurd wellformed outcome.not_wellformed
      · intro refused
        cases refused
        exact outcome
      · intro fault
        rw [outcome.unique fault]
  | ok world =>
      rw [parsed] at outcome
      obtain ⟨wellformed, depicts⟩ := outcome
      refine ⟨⟨fun _ => wellformed, fun _ => ⟨world, rfl⟩⟩, ?_, fun error => ⟨nofun, ?_⟩⟩
      · intro other read
        cases read
        exact ⟨depicts, create_of_parse parsed⟩
      · intro fault
        exact absurd wellformed fault.not_wellformed

theorem parse_reports_first_fault_corner :
    Wellformed ["#*.", " >*"] ∧
      (parse ["#*.", " >*"] = .ok ⟨3, 2, ⟨⟨1, 1⟩, .east, 0⟩, [⟨0, 0⟩], [⟨1, 0⟩, ⟨2, 1⟩], 0⟩ ∧
        Depicts ["#*.", " >*"] ⟨3, 2, ⟨⟨1, 1⟩, .east, 0⟩, [⟨0, 0⟩], [⟨1, 0⟩, ⟨2, 1⟩], 0⟩) ∧
      FirstFault ["^.", ".?", "v"] ⟨.unknownCharacter '?' 2 2, some 2⟩ := by
  have parsed : parse ["#*.", " >*"] = .ok ⟨3, 2, ⟨⟨1, 1⟩, .east, 0⟩, [⟨0, 0⟩], [⟨1, 0⟩, ⟨2, 1⟩], 0⟩ := by
    decide +kernel
  have refused : parse ["^.", ".?", "v"] = .error ⟨.unknownCharacter '?' 2 2, some 2⟩ := by decide +kernel
  obtain ⟨accepted, shown, _⟩ := parse_reports_first_fault ["#*.", " >*"]
  exact ⟨accepted.mp ⟨_, parsed⟩, ⟨parsed, (shown _ parsed).1⟩,
    ((parse_reports_first_fault _).2.2 _).mp refused⟩

end Map

end GridRobot
