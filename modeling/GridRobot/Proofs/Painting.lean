import GridRobot.Figure.Grid
import Mathlib.Logic.Function.Basic

namespace GridRobot.Grid

/-- The grid whose fills follow a rule. -/
def table (width height : Nat) (rule : Cell → Fill) : Grid :=
  (List.range height).map fun y : Nat => (List.range width).map fun x : Nat => rule ⟨x, y⟩

variable {width height : Nat} {rule rule' : Cell → Fill}

theorem blank_eq_table : blank width height = table width height fun _ => .empty := by
  simp only [blank, table, List.map_const', List.length_range]

/-- Only the rule for cells on the grid counts. -/
theorem table_congr (same : ∀ x y : Nat, x < width → y < height → rule ⟨x, y⟩ = rule' ⟨x, y⟩) :
    table width height rule = table width height rule' := by
  apply List.map_congr_left
  intro y below
  apply List.map_congr_left
  intro x inside
  exact same x y (List.mem_range.mp inside) (List.mem_range.mp below)

/-- To paint a cell is to change the rule there. -/
theorem paintCell_table (fill : Fill) (cell : Cell) :
    paintCell fill (table width height rule) cell = table width height (Function.update rule cell fill) := by
  rw [paintCell]
  split
  · rename_i placed
    rw [Bool.and_eq_true, decide_eq_true_eq, decide_eq_true_eq] at placed
    obtain ⟨column, xEq⟩ := Int.eq_ofNat_of_zero_le placed.1
    obtain ⟨row, yEq⟩ := Int.eq_ofNat_of_zero_le placed.2
    obtain ⟨x, y⟩ := cell
    subst xEq yEq
    apply List.ext_getElem
    · simp [table]
    · intro y inside inside'
      apply List.ext_getElem
      · simp only [table, List.getElem_modify]
        split <;> simp
      · intro x within within'
        simp only [table, List.getElem_modify, List.getElem_map, List.getElem_range, Function.update_apply,
          Cell.mk.injEq, Int.natCast_inj]
        by_cases there : row = y
        · simp [there, List.getElem_set, eq_comm]
        · simp [there, Ne.symm there]
  · rename_i outside
    apply table_congr
    intro x y _ _
    rw [Function.update_of_ne]
    rintro rfl
    simp at outside

/-- The cells that are painted have the new fill, and all others keep theirs. -/
theorem paint_table (fill : Fill) (cells : List Cell) :
    paint fill cells (table width height rule) =
      table width height fun cell => if cell ∈ cells then fill else rule cell := by
  induction cells generalizing rule with
  | nil => simp [paint]
  | cons first rest inductionHypothesis =>
      have painted : paint fill (first :: rest) (table width height rule) =
          paint fill rest (table width height (Function.update rule first fill)) := by
        rw [← paintCell_table]
        rfl
      rw [painted, inductionHypothesis]
      apply table_congr
      intro x y _ _
      by_cases same : (⟨x, y⟩ : Cell) = first
      · simp [same]
      · simp [same]

/-- What a cell shows: a beeper if there is one, else a wall if there is one. -/
def fillOf (walls beepers : List Cell) (cell : Cell) : Fill :=
  if cell ∈ beepers then .beeper else if cell ∈ walls then .wall else .empty

/-- The picture of a board tells of each cell whether there are beepers, and else whether there is a wall. -/
theorem build_eq_table (width height : Nat) (walls beepers : List Cell) :
    build width height walls beepers = table width height (fillOf walls beepers) := by
  rw [build, blank_eq_table, paint_table, paint_table]
  rfl

end GridRobot.Grid
