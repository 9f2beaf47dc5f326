import FigureScript.Figure.Drawing

/-!
# The end of a script

Titles, labels and limits of the whole figure, then saving and showing it.
-/

namespace FigureScript.Figure

def titleSize : Expr := .named "fontsize" (.natural 16)

def textStatement (object : Expr) (method : String) (text : Option String) : List Statement :=
  match text with
  | some text => [.evaluate (.method object method [.quoted text, titleSize])]
  | none => []

/-- A text in the middle of one side of a figure with subplots. -/
def sideText (x y : Float) (text : Option String) (direction : List Expr) : List Statement :=
  match text with
  | some text =>
    [.evaluate (.method (.name "fig") "text"
      ([.number x, .number y, .quoted text, titleSize, .named "ha" (.quoted "center"),
        .named "va" (.quoted "center")] ++ direction))]
  | none => []

/-- Title and labels around a grid. Its cells are configured where they are drawn. -/
def gridTexts (figure : Figure) : List Statement :=
  textStatement (.name "fig") "suptitle" (Given.text figure.title) ++
  sideText 0.5 0.04 figure.xAxis.labelText [] ++
  sideText 0.04 0.5 figure.yAxis.labelText [.named "rotation" (.quoted "vertical")]

/-- Title, labels, ticks and limits of a figure without subplots. -/
def axesTexts (figure : Figure) : List Statement :=
  let twinAxis := figure.twin.map TwinAxis.yAxis
  textStatement Axes.primary.expr "set_title" (Given.text figure.title) ++
  textStatement Axes.primary.expr "set_xlabel" figure.xAxis.labelText ++
  textStatement Axes.primary.expr "set_ylabel" figure.yAxis.labelText ++
  textStatement Axes.twin.expr "set_ylabel" (twinAxis.bind Axis.labelText) ++
  figure.tickStatements .primary ++
  (if figure.twin.isSome then figure.tickStatements .twin else []) ++
  figure.limitStatements .primary ++
  (match twinAxis with
    | some axis => limitStatement .twin "set_ylim" axis
    | none => [])

def configuration (figure : Figure) (layout : Layout) : List Statement :=
  if layout.isGrid then figure.gridTexts else figure.axesTexts

/-- Save the figure. A legend can lie outside the axes, so it is named to keep it in the image. -/
def saveStatement (figure : Figure) : Statement :=
  let legend : List Expr :=
    if figure.hasLabels then
      .named "bbox_extra_artists" (.single (.name "lgd")) ::
        (if figure.tight then [.named "bbox_inches" (.quoted "tight")] else [])
    else []
  .evaluate (.method (.name "fig") "savefig"
    ([.quoted figure.outputPath, .named "format" (.quoted "pdf")] ++ legend))

def postamble (figure : Figure) : List Statement :=
  figure.saveStatement ::
    (if figure.showWindow then
      [.evaluate (.call (.name "show") [.named "block" (.truth figure.block)])]
    else [])

end FigureScript.Figure
