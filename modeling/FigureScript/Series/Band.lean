import FigureScript.Layout
import FigureScript.Series.Arguments
import FigureScript.Series.Writing

/-!
# Error bands

A line with the area between `y - e` and `y + e` filled.
-/

namespace FigureScript

structure Band where
  /-- Independent values, or the line itself when `y` is missing. -/
  x : Option (List Float) := none
  y : Option (List Float) := none
  errors : Option (List Float) := none
  alpha : Option Float := none
  /-- The legend text of the filled area. -/
  errorLabel : Option String := none
  label : Option String := none
  color : Option Color := none
  cell : Cell := {}
  deriving BEq, Repr

structure BandValues where
  x : List Float
  y : List Float
  errors : List Float
  deriving BEq, Repr

namespace Band

def values (band : Band) : Except SeriesError BandValues := do
  let x ← match Given.list band.x with
    | some x => .ok x
    | none => .error .noCenter
  let (x, y) ← match Given.list band.y with
    | some y =>
      if y.length = x.length then .ok (x, y) else .error (.unequalPoints x.length y.length)
    | none => .ok (Series.ordinal x.length, x)
  match band.errors with
  | none => .error .noErrors
  | some errors =>
    if errors.length = y.length then .ok ⟨x, y, errors⟩
    else .error (.unequalErrors errors.length y.length)

def check (band : Band) : Except SeriesError Unit := band.values.map fun _ => ()

/-- How opaque the area is where nothing else is set. -/
def defaultAlpha : Float := 0.1

/-- Line and area have one color. A palette color is drawn once and kept in a variable. -/
def colorDraw (band : Band) : List Statement :=
  match band.color with
  | some .palette => [.assign ["c"] Color.palette.expr]
  | _ => []

def colorArgument (band : Band) : List Expr :=
  match band.color with
  | some .palette => [.named "color" (.name "c")]
  | color => Series.colorArgument color

def bindArray (name : String) (values : List Float) : Statement :=
  .assign [name] (.call (.name "array") [.numbers values])

def lineStatement (band : Band) (axes : Axes) : Statement :=
  .extend "lines" (.method axes.expr "plot"
    ([.name "x", .name "y"] ++ band.colorArgument ++ Series.labelArgument band.label))

def fill (band : Band) (axes : Axes) : Expr :=
  let y := Expr.name "y"
  let errors := Expr.name "e"
  let bounds : List Expr :=
    [.name "x", .difference y errors, .sum y errors,
      .named "alpha" (.number (band.alpha.getD defaultAlpha))]
  .method axes.expr "fill_between"
    (bounds ++ band.colorArgument ++ Series.labelArgument band.errorLabel)

/-- The area appears in a common legend only under a text of its own. -/
def fillStatement (band : Band) (axes : Axes) : Statement :=
  match Given.text band.errorLabel with
  | some _ => Series.register (band.fill axes)
  | none => .evaluate (band.fill axes)

def draw (band : Band) (axes : Axes) : Except SeriesError (List Statement) :=
  match band.values with
  | .error error => .error error
  | .ok values =>
    .ok (band.colorDraw ++
      [bindArray "x" values.x, bindArray "y" values.y, bindArray "e" values.errors,
        band.lineStatement axes, band.fillStatement axes])

def write (band : Band) (axes : Axes) : Writing Unit := do
  let values ← Writing.lift band.values
  Writing.lines band.colorDraw
  Writing.line (bindArray "x" values.x)
  Writing.line (bindArray "y" values.y)
  Writing.line (bindArray "e" values.errors)
  Writing.line (band.lineStatement axes)
  Writing.line (band.fillStatement axes)

end Band

end FigureScript
