import FigureScript.Proofs.Figure.Vocabulary
import FigureScript.Proofs.Number.Reading

namespace FigureScript

open Lexer

/-! # Cells of a grid

What the expression of a cell selects, read as a script reads it. Main statement: every cell of a grid
has an expression that selects its axes, and no other cell of the grid has the same one.
-/

/-- What the plotting library returns for a grid, and what indexing that can lead to. -/
inductive AxesValue (α : Type) where
  | axes (handle : α)
  | vector (items : List α)
  | table (rows : List (List α))
  deriving DecidableEq, Repr

namespace AxesValue

variable {α : Type}

/-- A side of length one leaves no dimension of its own. -/
def ofShape (rows columns : Nat) (axesAt : Nat → Nat → α) : AxesValue α :=
  if rows = 1 ∧ columns = 1 then .axes (axesAt 0 0)
  else if rows = 1 then .vector ((List.range columns).map (axesAt 0))
  else if columns = 1 then .vector ((List.range rows).map fun row => axesAt row 0)
  else .table ((List.range rows).map fun row => (List.range columns).map (axesAt row))

/-- A table can be indexed by a row alone; axes cannot be indexed at all. -/
def index : AxesValue α → List Nat → Option (AxesValue α)
  | .vector items, [position] => items[position]?.map .axes
  | .table rows, [row] => rows[row]?.map .vector
  | .table rows, [row, column] => (rows[row]?.bind fun items => items[column]?).map .axes
  | _, _ => none

/-- Whole numbers with commas between them and a closing bracket behind them. -/
def positions? : List Token → Option (List Nat)
  | [.word digits, .mark mark] =>
    if mark = ']' then (Number.natural? digits.toList).map fun position => [position] else none
  | .word digits :: .mark mark :: rest =>
    if mark = ',' then do return (← Number.natural? digits.toList) :: (← positions? rest) else none
  | _ => none

/-- What an expression stands for where `axs` has this value: the value itself, or an entry of it. -/
def evaluate (value : AxesValue α) (expression : String) : Option (AxesValue α) :=
  match tokens .escaping expression with
  | [.word name] => if name = "axs" then some value else none
  | .word name :: .mark mark :: rest =>
    if name = "axs" ∧ mark = '[' then (positions? rest).bind value.index else none
  | _ => none

variable {value : AxesValue α}

theorem evaluate_of_tokens (expression : Expr) {read : List Token}
    (legible : expression.Legible .escaping) (same : expression.tokens = read) :
    tokens .escaping expression.text = read :=
  (expression.spells legible).read.trans same

theorem evaluate_axes : value.evaluate Grid.axes.text = some value := by
  have read := evaluate_of_tokens Grid.axes
    (by simp +decide [Expr.Legible, Grid.axes]) rfl
  rw [evaluate, read]
  rfl

theorem evaluate_index_one (position : Nat) :
    value.evaluate (Expr.index Grid.axes [.natural position]).text = value.index [position] := by
  have read := evaluate_of_tokens (.index Grid.axes [.natural position])
    (by simp +decide [Expr.Legible, Grid.axes]) rfl
  rw [evaluate, read]
  simp [Expr.tokens, Expr.tokensEach, Grid.axes, positions?, Number.natural?_toDigits]

theorem evaluate_index_two (row column : Nat) :
    value.evaluate (Expr.index Grid.axes [.natural row, .natural column]).text =
      value.index [row, column] := by
  have read := evaluate_of_tokens (.index Grid.axes [.natural row, .natural column])
    (by simp +decide [Expr.Legible, Grid.axes]) rfl
  rw [evaluate, read]
  simp [Expr.tokens, Expr.tokensEach, Grid.axes, positions?, Number.natural?_toDigits]

end AxesValue

namespace Grid

variable {grid : Grid} {cell other : Cell}

/-- The value of the axes of a grid. -/
def value {α : Type} (grid : Grid) (axesAt : Nat → Nat → α) : AxesValue α :=
  .ofShape grid.rows.toNat grid.columns.toNat axesAt

/-- Inside the grid the expression of a cell selects its axes. -/
theorem evaluate_selector {α : Type} (inside : grid.contains cell) (axesAt : Nat → Nat → α) :
    (grid.value axesAt).evaluate (grid.selector cell).text =
      some (.axes (axesAt cell.row.toNat cell.column.toNat)) := by
  obtain ⟨row, column⟩ := inside
  rw [UInt64.lt_iff_toNat_lt] at row column
  simp only [selector, value, UInt64.lt_iff_toNat_lt, UInt64.toNat_one]
  -- A side of length one has no dimension in the value, and no index in the expression.
  split
  · rename_i both
    have table : AxesValue.ofShape grid.rows.toNat grid.columns.toNat axesAt =
        .table ((List.range grid.rows.toNat).map fun row =>
          (List.range grid.columns.toNat).map (axesAt row)) := by
      simp [AxesValue.ofShape, both.1.ne', both.2.ne']
    rw [AxesValue.evaluate_index_two, table]
    simp [AxesValue.index, row, column]
  · split
    · rename_i single wide
      have one : grid.rows.toNat = 1 := by omega
      have first : cell.row.toNat = 0 := by omega
      rw [AxesValue.evaluate_index_one, one, first]
      simp [AxesValue.ofShape, AxesValue.index, wide.ne', column]
    · split
      · rename_i narrow tall
        have one : grid.columns.toNat = 1 := by omega
        have first : cell.column.toNat = 0 := by omega
        rw [AxesValue.evaluate_index_one, one, first]
        simp [AxesValue.ofShape, AxesValue.index, tall.ne', row]
      · rename_i narrow short
        have rows : grid.rows.toNat = 1 := by omega
        have columns : grid.columns.toNat = 1 := by omega
        have first : cell.row.toNat = 0 ∧ cell.column.toNat = 0 := by omega
        rw [AxesValue.evaluate_axes, rows, columns, first.1, first.2]
        rfl

/-- Different cells of a grid are written differently: what an expression selects tells the cell. -/
theorem eq_of_selector_text (inside : grid.contains cell) (others : grid.contains other)
    (same : (grid.selector cell).text = (grid.selector other).text) : cell = other := by
  have selected := evaluate_selector inside Prod.mk
  rw [same, evaluate_selector others Prod.mk] at selected
  obtain ⟨row, column⟩ := cell
  obtain ⟨otherRow, otherColumn⟩ := other
  simp only [Option.some.injEq, AxesValue.axes.injEq, Prod.mk.injEq] at selected
  rw [UInt64.toNat.inj selected.1, UInt64.toNat.inj selected.2]

theorem cellExpr_eq_ok_iff {expression : Expr} :
    grid.cellExpr cell = .ok expression ↔
      grid.contains cell ∧ grid.selector cell = expression := by
  by_cases inside : grid.contains cell
  · simp [cellExpr_of_contains inside, inside]
  · simp [cellExpr_of_not_contains inside, inside]

/-- A cell has an expression exactly when it lies in the grid, and otherwise the error names both.
Read in a script the expression selects the axes in the row and the column of the cell, and it is the
only cell of the grid with that expression. -/
theorem cellExpr_selects_axes (grid : Grid) (cell : Cell) :
    ((∃ expression, grid.cellExpr cell = .ok expression) ↔
        cell.row < grid.rows ∧ cell.column < grid.columns) ∧
      (∀ error, grid.cellExpr cell = .error error →
        error = { rows := grid.rows, columns := grid.columns, cell := cell }) ∧
      (∀ expression, grid.cellExpr cell = .ok expression → ∀ (α : Type) (axesAt : Nat → Nat → α),
        (grid.value axesAt).evaluate expression.text =
          some (.axes (axesAt cell.row.toNat cell.column.toNat))) ∧
      ∀ other expression second, grid.cellExpr cell = .ok expression →
        grid.cellExpr other = .ok second → expression.text = second.text → cell = other := by
  refine ⟨?_, fun error refused => ?_, fun expression found α axesAt => ?_,
    fun other expression second found others same => ?_⟩
  · simp only [cellExpr_eq_ok_iff, exists_and_left, exists_eq', and_true]
    exact Iff.rfl
  · by_cases inside : grid.contains cell
    · rw [cellExpr_of_contains inside] at refused
      contradiction
    · rw [cellExpr_of_not_contains inside] at refused
      exact (Except.error.inj refused).symm
  · obtain ⟨inside, rfl⟩ := cellExpr_eq_ok_iff.mp found
    exact evaluate_selector inside axesAt
  · obtain ⟨inside, rfl⟩ := cellExpr_eq_ok_iff.mp found
    obtain ⟨within, rfl⟩ := cellExpr_eq_ok_iff.mp others
    exact eq_of_selector_text inside within same

end Grid

end FigureScript
