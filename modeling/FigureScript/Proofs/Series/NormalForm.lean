import FigureScript.Proofs.Series.Consistency
import FigureScript.Proofs.Series.Writing

namespace FigureScript

/-! # Normal forms of series

What is left of a series when all that may be left out is filled in, and all that is not drawn is left
out. Main statement: series are drawn by the statements of their normal form.
-/

/-- An argument given by name, where there is a value for it. -/
def Expr.optional (parameter : String) (value : Option Expr) : List Expr :=
  value.toList.map (.named parameter)

def Bars.names (bars : Bars) : Option (List String) :=
  match bars.categories with
  | some (.labels names) => some names
  | _ => none

/-- The color map of an image; a Hinton diagram has none. -/
def Matrix.shownColorMap (matrix : Matrix) : Option String :=
  if matrix.hinton then none else some (matrix.colorMap.getD defaultColorMap)

namespace Series

inductive NormalForm where
  | line (x : Option (List Float)) (y : List Float) (color : Option Color) (label : Option String)
  | scatter (x y : List Float) (color : Option Color) (label : Option String)
  | bar (positions heights : List Float) (width : Float) (horizontal : Bool)
      (errors : Option (List Float)) (color : Color) (names : Option (List String))
      (label : Option String)
  | errorBand (values : BandValues) (alpha : Float) (color : Option Color)
      (label errorLabel : Option String)
  /-- Without a color map the values are shown as a Hinton diagram. -/
  | matrix (values : List (List Float)) (colorMap : Option String)

/-- The normal form of a series that passes its check. -/
def normalForm : Series → Except SeriesError NormalForm
  | line trace =>
    trace.points.map fun points => .line points.x points.y trace.color (Given.text trace.label)
  | scatter trace =>
    trace.points.map fun points =>
      .scatter (points.x.getD (ordinal points.y.length)) points.y trace.color
        (Given.text trace.label)
  | bar bars => do
    bars.check
    let heights ← bars.heights
    return .bar (bars.positions heights) heights bars.effectiveWidth bars.horizontal bars.errors
      (bars.color.getD .blue) bars.names (Given.text bars.label)
  | errorBand band =>
    band.values.map fun values =>
      .errorBand values (band.alpha.getD Band.defaultAlpha) band.color (Given.text band.label)
        (Given.text band.errorLabel)
  | matrix shown => shown.check.map fun _ => .matrix shown.values shown.shownColorMap

namespace NormalForm

def options (color : Option Expr) (label : Option String) : List Expr :=
  Expr.optional "color" color ++ Expr.optional "label" (label.map .quoted)

/-- The color of the line and of the area of a band. -/
def bandColor : Color → Expr
  | .palette => .name "c"
  | .named name => .quoted name

def tickLabels (axes : Axes) (axis : String) (positions : List Float) :
    Option (List String) → List Statement
  | some names =>
    [.evaluate (.method axes.expr ("set_" ++ axis ++ "ticks") [.numbers positions]),
      .evaluate (.method axes.expr ("set_" ++ axis ++ "ticklabels") [.quotedList names])]
  | none => []

def area (axes : Axes) (alpha : Float) (color : Option Color) (errorLabel : Option String) :
    Expr :=
  .method axes.expr "fill_between"
    ([.name "x", .difference (.name "y") (.name "e"), .sum (.name "y") (.name "e"),
      .named "alpha" (.number alpha)] ++ options (color.map bandColor) errorLabel)

def fill (axes : Axes) (alpha : Float) (color : Option Color) (errorLabel : Option String) :
    Statement :=
  let area := area axes alpha color errorLabel
  if errorLabel.isSome then register area else .evaluate area

def display (axes : Axes) : Option String → List Statement
  | some name =>
    [.evaluate (.method axes.expr "matshow" [.name "x", .named "cmap" (.quoted name)])]
  | none =>
    [.importFrom "mpltools" "special", .evaluate (.call (.name "sca") [axes.expr]),
      .evaluate (.method (.name "special") "hinton" [.name "x"])]

def statements (axes : Axes) : NormalForm → List Statement
  | line x y color label =>
    [.extend "lines" (.method axes.expr "plot"
      ((x.toList ++ [y]).map Expr.numbers ++ options (color.map Color.expr) label))]
  | scatter x y color label =>
    [register (.method axes.expr "scatter"
      ([.numbers x, .numbers y] ++ options (color.map Color.expr) label))]
  | bar positions heights width horizontal errors color names label =>
    register (.method axes.expr (if horizontal then "barh" else "bar")
      ([.numbers positions, .numbers heights, .number width, .named "color" color.expr] ++
        Expr.optional (if horizontal then "xerr" else "yerr") (errors.map Expr.numbers) ++
        Expr.optional "label" (label.map .quoted))) ::
      tickLabels axes (if horizontal then "y" else "x") positions names
  | errorBand values alpha color label errorLabel =>
    (if color = some .palette then [.assign ["c"] Color.palette.expr] else []) ++
      [Band.bindArray "x" values.x, Band.bindArray "y" values.y,
        Band.bindArray "e" values.errors,
        .extend "lines" (.method axes.expr "plot"
          ([.name "x", .name "y"] ++ options (color.map bandColor) label)),
        fill axes alpha color errorLabel]
  | matrix values colorMap =>
    .assign ["x"] (.call (.name "array") [.numberRows values]) :: display axes colorMap

end NormalForm

/-! ## Where the data come from -/

end Series

/-- Both lists are given, or the one that is given stands without an index. -/
theorem Trace.points_cases {trace : Trace} {points : Points} (found : trace.points = .ok points) :
    (∃ x, points.x = some x ∧ Given.list trace.x = some x ∧ Given.list trace.y = some points.y ∧
        x.length = points.y.length) ∨
      points.x = none ∧
        (Given.list trace.x = some points.y ∨ Given.list trace.y = some points.y) := by
  unfold Trace.points at found
  split at found
  · rename_i x y first second
    split at found
    · rename_i equal
      cases found
      exact .inl ⟨x, rfl, first, second, equal⟩
    · contradiction
  · rename_i values first second
    cases found
    exact .inr ⟨rfl, .inl first⟩
  · rename_i values first second
    cases found
    exact .inr ⟨rfl, .inr second⟩
  · contradiction

theorem Bars.heights_eq_ok_iff {bars : Bars} {heights : List Float} :
    bars.heights = .ok heights ↔ Given.list bars.values = some heights := by
  unfold Bars.heights
  cases Given.list bars.values <;> simp

/-- The independent values become the line itself where no line is given. -/
theorem Band.values_cases {band : Band} {values : BandValues} (found : band.values = .ok values) :
    band.errors = some values.errors ∧ values.errors.length = values.y.length ∧
      ((Given.list band.x = some values.x ∧ Given.list band.y = some values.y ∧
          values.y.length = values.x.length) ∨
        Given.list band.x = some values.y ∧ values.x = Series.ordinal values.y.length) := by
  unfold Band.values at found
  cases x : Given.list band.x with
  | none => simp [x, bind, Except.bind] at found
  | some first =>
      cases errors : band.errors with
      | none =>
          cases y : Given.list band.y with
          | none => simp [x, y, errors, bind, Except.bind] at found
          | some second =>
              by_cases equal : second.length = first.length <;>
                simp [x, y, errors, equal, bind, Except.bind] at found
      | some spans =>
          cases y : Given.list band.y with
          | none =>
              by_cases paired : spans.length = first.length <;>
                simp [x, y, errors, paired, bind, Except.bind] at found
              subst found
              exact ⟨rfl, paired, .inr ⟨rfl, rfl⟩⟩
          | some second =>
              by_cases equal : second.length = first.length <;>
                by_cases paired : spans.length = first.length <;>
                simp [x, y, errors, equal, paired, bind, Except.bind] at found
              subst found
              exact ⟨rfl, paired.trans equal.symm, .inl ⟨rfl, rfl, equal⟩⟩

namespace Series

/-! ## Drawing the normal form -/

theorem colorArgument_eq (color : Option Color) :
    colorArgument color = Expr.optional "color" (color.map Color.expr) := by
  cases color <;> rfl

theorem labelArgument_eq (label : Option String) :
    labelArgument label = Expr.optional "label" ((Given.text label).map .quoted) := by
  cases given : Given.text label <;> simp [labelArgument, given, Expr.optional]

theorem options_eq (trace : Trace) :
    trace.options =
      NormalForm.options (trace.color.map Color.expr) (Given.text trace.label) := by
  rw [Trace.options, colorArgument_eq, labelArgument_eq, NormalForm.options]

theorem bandColorArgument_eq (band : Band) :
    band.colorArgument = Expr.optional "color" (band.color.map NormalForm.bandColor) := by
  rcases color : band.color with _ | _ | name <;>
    simp [Band.colorArgument, color, Expr.optional, colorArgument, NormalForm.bandColor, Color.expr]

theorem errorArgument_eq (bars : Bars) :
    bars.errorArgument =
      Expr.optional (if bars.horizontal then "xerr" else "yerr") (bars.errors.map Expr.numbers) := by
  cases errors : bars.errors <;> simp [Bars.errorArgument, errors, Expr.optional]

theorem tickLabels_eq (bars : Bars) (axes : Axes) (positions : List Float) :
    bars.tickLabels axes positions =
      NormalForm.tickLabels axes (if bars.horizontal then "y" else "x") positions bars.names := by
  rcases categories : bars.categories with _ | _ | names <;>
    simp [Bars.tickLabels, Bars.names, categories, NormalForm.tickLabels, Bars.categoryAxis]

theorem colorDraw_eq (band : Band) :
    band.colorDraw =
      if band.color = some .palette then [.assign ["c"] Color.palette.expr] else [] := by
  rcases color : band.color with _ | _ | name <;> simp [Band.colorDraw, color]

theorem fillStatement_eq (band : Band) (axes : Axes) :
    band.fillStatement axes =
      NormalForm.fill axes (band.alpha.getD Band.defaultAlpha) band.color
        (Given.text band.errorLabel) := by
  cases given : Given.text band.errorLabel <;>
    simp [Band.fillStatement, Band.fill, NormalForm.fill, NormalForm.area, NormalForm.options, given,
      bandColorArgument_eq, labelArgument_eq]

theorem display_eq (matrix : Matrix) (axes : Axes) :
    matrix.display axes = NormalForm.display axes matrix.shownColorMap := by
  cases hinton : matrix.hinton <;>
    simp [Matrix.display, Matrix.shownColorMap, hinton, NormalForm.display]

/-- Every series is drawn by the statements of its normal form. -/
theorem statements_eq_normalForm (series : Series) (axes : Axes) :
    series.statements axes = series.normalForm.map (NormalForm.statements axes) := by
  cases series with
  | line trace =>
      cases points : trace.points with
      | error error => simp only [statements, Trace.line, normalForm, points, Except.map]
      | ok values =>
          simp only [statements, Trace.line, Trace.lineStatement, normalForm, points, Except.map,
            NormalForm.statements, options_eq]
  | scatter trace =>
      cases points : trace.points with
      | error error => simp only [statements, Trace.scatter, normalForm, points, Except.map]
      | ok values =>
          simp only [statements, Trace.scatter, Trace.scatterStatement, normalForm, points,
            Except.map, NormalForm.statements, options_eq]
  | bar bars =>
      cases checked : bars.check with
      | error error =>
          simp only [statements, Bars.draw_of_error checked, normalForm, checked, bind, Except.bind,
            Except.map]
      | ok =>
          obtain ⟨heights, found, drawn⟩ := Bars.draw_of_check checked
          simp only [statements, drawn, normalForm, checked, found, bind, Except.bind, pure,
            Except.pure, Except.map, NormalForm.statements, Bars.drawStatement, Bars.drawMethod,
            errorArgument_eq, labelArgument_eq, tickLabels_eq]
  | errorBand band =>
      cases lists : band.values with
      | error error => simp only [statements, Band.draw, normalForm, lists, Except.map]
      | ok values =>
          simp only [statements, Band.draw, Band.lineStatement, normalForm, lists, Except.map,
            NormalForm.statements, NormalForm.options, colorDraw_eq, bandColorArgument_eq,
            labelArgument_eq, fillStatement_eq, List.append_assoc]
  | matrix shown =>
      cases checked : shown.check with
      | error error => simp only [statements, Matrix.draw, normalForm, checked, Except.map]
      | ok =>
          simp only [statements, Matrix.draw, Matrix.bindRows, normalForm, checked, Except.map,
            NormalForm.statements, display_eq]

theorem exists_normalForm {series : Series} (checked : series.check = .ok ()) :
    ∃ form, series.normalForm = .ok form ∧ ∀ axes, series.drawn axes = form.statements axes := by
  cases found : series.normalForm with
  | error error =>
      have drawn := statements_of_check checked .primary
      rw [statements_eq_normalForm, found] at drawn
      contradiction
  | ok form =>
      refine ⟨form, rfl, fun axes => drawn_of_statements ?_⟩
      rw [statements_eq_normalForm, found]
      rfl

end Series

end FigureScript
