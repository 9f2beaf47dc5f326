import FigureScript.Layout
import FigureScript.Series.Arguments
import FigureScript.Series.Writing

/-!
# Lines and scatter plots
-/

namespace FigureScript

/-- Points given by their coordinates. A single list of values is drawn against its index. -/
structure Trace where
  x : Option (List Float) := none
  y : Option (List Float) := none
  label : Option String := none
  color : Option Color := none
  cell : Cell := {}
  deriving BEq, Repr

/-- The values to draw; without `x` they are drawn against their index. -/
structure Points where
  x : Option (List Float)
  y : List Float
  deriving BEq, Repr

namespace Trace

def points (trace : Trace) : Except SeriesError Points :=
  match Given.list trace.x, Given.list trace.y with
  | some x, some y =>
    if x.length = y.length then .ok ⟨some x, y⟩
    else .error (.unequalPoints x.length y.length)
  | some values, none | none, some values => .ok ⟨none, values⟩
  | none, none => .error .noPoints

def check (trace : Trace) : Except SeriesError Unit := trace.points.map fun _ => ()

def options (trace : Trace) : List Expr :=
  Series.colorArgument trace.color ++ Series.labelArgument trace.label

def lineStatement (trace : Trace) (axes : Axes) (points : Points) : Statement :=
  let values := (points.x.toList ++ [points.y]).map Expr.numbers
  .extend "lines" (.method axes.expr "plot" (values ++ trace.options))

/-- Draw every point by itself. A scatter call needs both coordinates, so a missing index is written
out. -/
def scatterStatement (trace : Trace) (axes : Axes) (points : Points) : Statement :=
  let x := points.x.getD (Series.ordinal points.y.length)
  Series.register (.method axes.expr "scatter" ([.numbers x, .numbers points.y] ++ trace.options))

def line (trace : Trace) (axes : Axes) : Except SeriesError (List Statement) :=
  match trace.points with
  | .error error => .error error
  | .ok points => .ok [trace.lineStatement axes points]

def scatter (trace : Trace) (axes : Axes) : Except SeriesError (List Statement) :=
  match trace.points with
  | .error error => .error error
  | .ok points => .ok [trace.scatterStatement axes points]

def writeLine (trace : Trace) (axes : Axes) : Writing Unit := do
  let points ← Writing.lift trace.points
  Writing.line (trace.lineStatement axes points)

def writeScatter (trace : Trace) (axes : Axes) : Writing Unit := do
  let points ← Writing.lift trace.points
  Writing.line (trace.scatterStatement axes points)

end Trace

end FigureScript
