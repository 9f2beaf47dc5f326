import FigureScript.Series.Basic

namespace FigureScript

/-! # Checking and drawing agree

A series is checked before anything is written and drawn later on. Drawing fails on exactly the
values that the check refuses, and for the same reason, so behind the check it is the total function
`Series.drawn`, and `Series.Fragment` lists what that function can return.
-/

theorem Trace.map_line (trace : Trace) (axes : Axes) :
    (trace.line axes).map (fun _ => ()) = trace.check := by
  cases points : trace.points with
  | error error => simp only [Trace.line, Trace.check, points, Except.map]
  | ok values => simp only [Trace.line, Trace.check, points, Except.map]

theorem Trace.map_scatter (trace : Trace) (axes : Axes) :
    (trace.scatter axes).map (fun _ => ()) = trace.check := by
  cases points : trace.points with
  | error error => simp only [Trace.scatter, Trace.check, points, Except.map]
  | ok values => simp only [Trace.scatter, Trace.check, points, Except.map]

/-- Bars are checked again where they are drawn. Their heights are the first thing checked, so that
they are there for bars that pass. -/
theorem Bars.map_draw (bars : Bars) (axes : Axes) :
    (bars.draw axes).map (fun _ => ()) = bars.check := by
  cases heights : bars.heights with
  | error error =>
      have refused : bars.check = .error error := by
        simp only [Bars.check, heights, bind, Except.bind]
      simp only [Bars.draw, refused, bind, Except.bind, Except.map]
  | ok values =>
      cases checked : bars.check with
      | error error => simp only [Bars.draw, checked, bind, Except.bind, Except.map]
      | ok =>
          simp only [Bars.draw, checked, heights, bind, Except.bind, pure, Except.pure, Except.map]

theorem Band.map_draw (band : Band) (axes : Axes) :
    (band.draw axes).map (fun _ => ()) = band.check := by
  cases values : band.values with
  | error error => simp only [Band.draw, Band.check, values, Except.map]
  | ok lists => simp only [Band.draw, Band.check, values, Except.map]

theorem Matrix.map_draw (matrix : Matrix) (axes : Axes) :
    (matrix.draw axes).map (fun _ => ()) = matrix.check := by
  cases checked : matrix.check with
  | error error => simp only [Matrix.draw, checked, Except.map]
  | ok => simp only [Matrix.draw, checked, Except.map]

namespace Series

theorem usesPalette_eq_true {series : Series} :
    series.usesPalette = true ↔ series.color = some .palette := by
  cases color : series.color <;> simp [usesPalette, color, Color.isPalette]

/-- Checking is drawing with the statements left out. -/
theorem map_statements (series : Series) (axes : Axes) :
    (series.statements axes).map (fun _ => ()) = series.check := by
  cases series with
  | line trace => exact trace.map_line axes
  | scatter trace => exact trace.map_scatter axes
  | bar bars => exact bars.map_draw axes
  | errorBand band => exact band.map_draw axes
  | matrix values => exact values.map_draw axes

/-- The statements of a series that passes its check, and none for any other. -/
def drawn (series : Series) (axes : Axes) : List Statement :=
  match series.statements axes with
  | .ok statements => statements
  | .error _ => []

theorem drawn_of_statements {series : Series} {axes : Axes} {statements : List Statement}
    (written : series.statements axes = .ok statements) : series.drawn axes = statements := by
  simp only [drawn, written]

theorem statements_of_check {series : Series} (checked : series.check = .ok ()) (axes : Axes) :
    series.statements axes = .ok (series.drawn axes) := by
  cases written : series.statements axes with
  | ok statements => rw [drawn_of_statements written]
  | error error =>
      have agree := series.map_statements axes
      rw [written, checked] at agree
      simp [Except.map] at agree

/-- The statements that can draw a series, kind by kind. Which numbers stand in them is left open. -/
inductive Fragment (axes : Axes) : Series → List Statement → Prop
  | line (trace : Trace) (values : List (List Float)) :
      Fragment axes (.line trace)
        [.extend "lines"
          (.method axes.expr "plot" (values.map Expr.numbers ++ trace.options))]
  | scatter (trace : Trace) (x y : List Float) :
      Fragment axes (.scatter trace)
        [register (.method axes.expr "scatter" ([.numbers x, .numbers y] ++ trace.options))]
  | bar (bars : Bars) (positions heights : List Float) :
      Fragment axes (.bar bars)
        (register (.method axes.expr bars.drawMethod
          ([.numbers positions, .numbers heights, .number bars.effectiveWidth,
            .named "color" (bars.color.getD .blue).expr] ++ bars.errorArgument ++
            labelArgument bars.label)) :: bars.tickLabels axes positions)
  | errorBand (band : Band) (x y errors : List Float) :
      Fragment axes (.errorBand band)
        (band.colorDraw ++
          [Band.bindArray "x" x, Band.bindArray "y" y, Band.bindArray "e" errors,
            .extend "lines" (.method axes.expr "plot"
              ([.name "x", .name "y"] ++ band.colorArgument ++ labelArgument band.label)),
            band.fillStatement axes])
  | matrix (values : Matrix) :
      Fragment axes (.matrix values)
        (.assign ["x"] (.call (.name "array") [.numberRows values.values]) :: values.display axes)

theorem Fragment.of_statements {series : Series} {axes : Axes} {statements : List Statement}
    (written : series.statements axes = .ok statements) : Fragment axes series statements := by
  cases series with
  | line trace =>
      simp only [Series.statements, Trace.line] at written
      split at written
      · contradiction
      · cases written
        exact .line trace _
  | scatter trace =>
      simp only [Series.statements, Trace.scatter] at written
      split at written
      · contradiction
      · cases written
        exact .scatter trace _ _
  | bar bars =>
      simp only [Series.statements, Bars.draw] at written
      cases checked : bars.check with
      | error error => simp [checked, bind, Except.bind] at written
      | ok =>
          cases heights : bars.heights with
          | error error => simp [checked, heights, bind, Except.bind] at written
          | ok values =>
              simp only [checked, heights, bind, Except.bind, pure, Except.pure] at written
              cases written
              exact .bar bars _ _
  | errorBand band =>
      simp only [Series.statements, Band.draw] at written
      split at written
      · contradiction
      · cases written
        exact .errorBand band _ _ _
  | matrix values =>
      simp only [Series.statements, Matrix.draw] at written
      split at written
      · contradiction
      · cases written
        exact .matrix values

theorem Fragment.of_check {series : Series} (checked : series.check = .ok ()) (axes : Axes) :
    Fragment axes series (series.drawn axes) :=
  .of_statements (statements_of_check checked axes)

end Series

end FigureScript
