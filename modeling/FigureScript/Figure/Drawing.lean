import FigureScript.Figure.Basic

/-!
# Axes and what is drawn on them

The axes are created first. Then the primary series are drawn in order, each on the axes of its cell;
the first series in a cell of a grid also configures the cell. The twin series follow.
-/

namespace FigureScript.Figure

def singleAxes : Statement := .assign ["fig", "ax"] (.call (.name "subplots") [])

def sizeStatements (figure : Figure) : List Statement :=
  match figure.size with
  | some (width, height) =>
    [.evaluate (.method (.name "fig") "set_size_inches"
      [.number width, .number height, .named "forward" (.truth true)])]
  | none => []

def axesCreation (figure : Figure) (layout : Layout) : List Statement :=
  (match layout with
    | .single => [singleAxes]
    | .twin => [singleAxes, .assign ["ax2"] (.method (.name "ax") "twinx" [])]
    | .grid shape => [shape.creation]) ++
  figure.sizeStatements

def tickStatements (figure : Figure) (axes : Axes) : List Statement :=
  let size : List Expr :=
    match figure.tickLabelSize with
    | some size => [.named "labelsize" (.number size)]
    | none => []
  TickSet.all.map fun ticks =>
    .evaluate (.method axes.expr "tick_params"
      ([.named "axis" (.quoted "both"), .named "which" (.quoted ticks.name)] ++ size))

/-- Set the limits of one axis by the given method, if there are any. -/
def limitStatement (axes : Axes) (method : String) (axis : Axis) : List Statement :=
  match axis.limitsExpr with
  | some limits => [.evaluate (.method axes.expr method [limits])]
  | none => []

def limitStatements (figure : Figure) (axes : Axes) : List Statement :=
  limitStatement axes "set_xlim" figure.xAxis ++ limitStatement axes "set_ylim" figure.yAxis

def occupants (figure : Figure) (cell : Cell) : List Series :=
  figure.series.filter fun series => series.cell = cell

/-- A cell with one series takes the label of that series for its title. -/
def cellTitle (figure : Figure) (cell : Cell) : List Statement :=
  match figure.occupants cell with
  | [only] =>
    match Given.text only.label with
    | some label => [.evaluate (.method Axes.primary.expr "set_title" [.quoted label])]
    | none => []
  | _ => []

/-- Title, ticks and limits of the cell bound last. -/
def cellStatements (figure : Figure) (cell : Cell) : List Statement :=
  figure.cellTitle cell ++ figure.tickStatements .primary ++ figure.limitStatements .primary

/-- Bind the axes of a cell, and configure the cell unless that was done before. -/
def bindCell (figure : Figure) (configured : List Cell) (axes : Axes) (cell : Cell) :
    List Statement :=
  match axes.binding with
  | some binding => binding :: (if cell ∈ configured then [] else figure.cellStatements cell)
  | none => []

def fragment (series : Series) (axes : Axes) : Except FigureError (List Statement) :=
  match series.statements axes with
  | .ok statements => .ok statements
  | .error error => .error (.series error)

/-- Draw primary series. `configured` holds the cells of those drawn before. -/
def drawPrimary (figure : Figure) (layout : Layout) (configured : List Cell) :
    List Series → Except FigureError (List Statement)
  | [] => .ok []
  | series :: rest => do
    let axes ← layout.axesAt series.cell
    let drawn ← fragment series axes
    let others ← figure.drawPrimary layout (series.cell :: configured) rest
    return figure.bindCell configured axes series.cell ++ drawn ++ others

def drawTwin (layout : Layout) (series : List Series) : Except FigureError (List Statement) := do
  let axes ← layout.twinAxes
  let fragments ← series.mapM fun one => fragment one axes
  return fragments.flatten

def drawing (figure : Figure) (layout : Layout) : Except FigureError (List Statement) := do
  let primary ← figure.drawPrimary layout [] figure.series
  let twin ← match figure.twin with
    | some twin => drawTwin layout twin.series
    | none => .ok []
  return primary ++ twin

end FigureScript.Figure
