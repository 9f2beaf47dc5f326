import FigureScript.Script.Syntax

/-!
# Subplot grids

A grid of axes and the cells in it. A script refers to a cell by indexing the value that the library
returns for the grid, and that value has one dimension less for each side of length one.
-/

namespace FigureScript

/-- A place in a grid, counted from zero. -/
structure Cell where
  row : UInt64 := 0
  column : UInt64 := 0
  deriving DecidableEq, Repr

/-- The shape of a grid and whether its axes share their ranges. -/
structure Grid where
  rows : UInt64
  columns : UInt64
  shareX : Bool := false
  shareY : Bool := false
  deriving DecidableEq, Repr

structure OutsideGrid where
  rows : UInt64
  columns : UInt64
  cell : Cell
  deriving DecidableEq, Repr

namespace Grid

def contains (grid : Grid) (cell : Cell) : Prop :=
  cell.row < grid.rows ∧ cell.column < grid.columns

instance (grid : Grid) (cell : Cell) : Decidable (grid.contains cell) :=
  inferInstanceAs (Decidable (_ ∧ _))

def outside (grid : Grid) (cell : Cell) : OutsideGrid := ⟨grid.rows, grid.columns, cell⟩

def creation (grid : Grid) : Statement :=
  .assign ["fig", "axs"] (.call (.name "subplots")
    [.natural grid.rows.toNat, .natural grid.columns.toNat,
      .named "sharex" (.truth grid.shareX), .named "sharey" (.truth grid.shareY)])

def axes : Expr := .name "axs"

def cellExpr (grid : Grid) (cell : Cell) : Except OutsideGrid Expr :=
  if grid.contains cell then
    if 1 < grid.rows ∧ 1 < grid.columns then
      .ok (.index axes [.natural cell.row.toNat, .natural cell.column.toNat])
    else if 1 < grid.columns then .ok (.index axes [.natural cell.column.toNat])
    else if 1 < grid.rows then .ok (.index axes [.natural cell.row.toNat])
    else .ok axes
  else .error (grid.outside cell)

/-- A grid without rows or columns has no cell, not even the first one. -/
def check (grid : Grid) : Except OutsideGrid Unit :=
  if grid.rows = 0 ∨ grid.columns = 0 then .error (grid.outside {}) else .ok ()

end Grid

end FigureScript
