import FigureScript.Figure.Basic

/-!
# Legends

Without a grid there is one legend for the figure. In a grid every cell with a labelled series has
its own.
-/

namespace FigureScript.Figure

/-- The cells of the given series, each once, in the order of their first appearance. -/
def distinctCells (seen : List Cell) : List Series → List Cell
  | [] => []
  | series :: rest =>
    if series.cell ∈ seen then distinctCells seen rest
    else series.cell :: distinctCells (series.cell :: seen) rest

/-- True when a primary series in the cell has an entry in a legend. -/
def isLabelled (figure : Figure) (cell : Cell) : Bool :=
  figure.series.any fun series => series.cell = cell && series.hasLegendEntry

/-- Keep the legend of the axes in the variable that saving refers to. -/
def legendStatement (axes : Expr) (arguments : List Expr) : Statement :=
  .assign ["lgd"] (.method axes "legend" arguments)

def collectLabels : Statement :=
  .assign ["labels"]
    (.collect (.method (.name "l") "get_label" []) "l" (.name "lines"))

def cellLegend (figure : Figure) (shape : Grid) (cell : Cell) : Except FigureError Statement :=
  match shape.cellExpr cell with
  | .ok axes => .ok (legendStatement axes figure.legend.arguments)
  | .error address => .error (.outsideGrid address)

def legends (figure : Figure) (layout : Layout) : Except FigureError (List Statement) :=
  if figure.hasLabels then
    match layout with
    | .single => .ok [legendStatement Axes.primary.expr figure.legend.arguments]
    | .twin =>
      .ok [collectLabels,
        legendStatement Axes.twin.expr
          ([.name "lines", .name "labels"] ++ figure.legend.arguments)]
    | .grid shape =>
      ((distinctCells [] figure.series).filter figure.isLabelled).mapM (figure.cellLegend shape)
  else .ok []

end FigureScript.Figure
