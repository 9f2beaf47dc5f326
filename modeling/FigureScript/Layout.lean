import FigureScript.Figure.Error

/-!
# Arrangement of the axes

A figure has a single pair of axes, a second y-axis on the same x-range, or a grid of subplots. Every
series is drawn through a variable of the script; a cell of a grid is bound to it first.
-/

namespace FigureScript

inductive Axes where
  | primary
  | twin
  /-- A subplot, with the expression that selects it. -/
  | cell (expression : Expr)

namespace Axes

/-- The variable that draw calls go through. -/
def variableName : Axes → String
  | primary | cell _ => "ax"
  | twin => "ax2"

def expr (axes : Axes) : Expr := .name axes.variableName

/-- The statement that binds the variable, where drawing needs one. -/
def binding : Axes → Option Statement
  | cell expression => some (.assign ["ax"] expression)
  | primary | twin => none

end Axes

inductive Layout where
  | single
  | twin
  | grid (shape : Grid)
  deriving DecidableEq, Repr

namespace Layout

def ofSettings (subplots : Option Grid) (hasTwin : Bool) : Except FigureError Layout :=
  match subplots, hasTwin with
  | some _, true => .error .layoutConflict
  | some shape, false =>
    match shape.check with
    | .ok () => .ok (.grid shape)
    | .error address => .error (.outsideGrid address)
  | none, true => .ok .twin
  | none, false => .ok .single

/-- The axes of a primary series in the given cell. Without a grid the cell does not matter. -/
def axesAt (layout : Layout) (cell : Cell) : Except FigureError Axes :=
  match layout with
  | single | twin => .ok .primary
  | grid shape =>
    match shape.cellExpr cell with
    | .ok expression => .ok (.cell expression)
    | .error address => .error (.outsideGrid address)

def twinAxes (layout : Layout) : Except FigureError Axes :=
  match layout with
  | twin => .ok .twin
  | grid _ => .error .layoutConflict
  | single => .ok .primary

def isGrid : Layout → Bool
  | grid _ => true
  | single | twin => false

end Layout

end FigureScript
