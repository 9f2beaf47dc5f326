import FigureScript.Figure.Basic

/-!
# Figures from bare data
-/

namespace FigureScript

/-- The kinds of series that can be made from lists alone. -/
inductive PlotKind where
  | line
  | scatter
  | errorLine
  | bar
  deriving DecidableEq, Repr

/-- A series of the given kind. For bars `x` holds the heights and `y` the positions. -/
def PlotKind.series (kind : PlotKind) (x : List Float) (y errors : Option (List Float)) : Series :=
  match kind with
  | line => .line { x := some x, y }
  | scatter => .scatter { x := some x, y }
  | errorLine => .errorBand { x := some x, y, errors }
  | bar => .bar { values := some x, categories := y.map .numeric, errors }

namespace Series

def withLabel (series : Series) (label : String) : Series :=
  match series with
  | line trace => line { trace with label := some label }
  | scatter trace => scatter { trace with label := some label }
  | bar bars => bar { bars with label := some label }
  | errorBand band => errorBand { band with label := some label }
  | matrix values => matrix { values with label := some label }

/-- The series in the next palette color; a matrix has no color. -/
def withPalette (series : Series) : Series :=
  match series with
  | line trace => line { trace with color := some .palette }
  | scatter trace => scatter { trace with color := some .palette }
  | bar bars => bar { bars with color := some .palette }
  | errorBand band => errorBand { band with color := some .palette }
  | matrix values => matrix values

end Series

namespace Figure

def quick (kind : PlotKind) (x : List Float) (y errors : Option (List Float)) : Figure :=
  add {} (kind.series x y errors)

def errorPlot (x errors : List Float) (y : Option (List Float)) : Figure :=
  add {} (.errorBand { x := some x, y, errors := some errors })

def labelled (kind : PlotKind) (entries : List (String × List Float)) : Figure :=
  entries.foldl
    (fun figure entry => figure.add ((kind.series entry.2 none none).withLabel entry.1)) {}

/-- Two series over the same `x`, the second against an axis of its own. Both take their color from
the palette, so they differ. -/
def twinPlot (first second : PlotKind) (x y₁ y₂ : List Float) : Figure :=
  { add {} (first.series x (some y₁) none).withPalette with
    twin := some (TwinAxis.add {} (second.series x (some y₂) none).withPalette) }

/-- One matrix on axes without grid lines. -/
def ofMatrix (matrix : Matrix) : Figure :=
  add { style := Style.withoutGrid {} } (.matrix matrix)

def matrixImage (rows : List (List Float)) : Figure := ofMatrix { values := rows }

def hintonDiagram (rows : List (List Float)) : Figure :=
  ofMatrix { values := rows, hinton := true }

/-- The ratio of a circle's circumference to its diameter, as the nearest double. -/
def pi : Float := 3.141592653589793

def demo : Figure :=
  let x := (List.range 200).map fun index => Binary64.ofNat index / Binary64.ofNat 100
  let y := x.map fun value => (2.0 * value * pi).sin
  add
    { title := some "Test figure"
      xAxis := { label := some "$x$" }
      yAxis := { label := some "$\\sin(2 \\pi x)$" } }
    (.line { x := some x, y := some y })

end Figure

end FigureScript
