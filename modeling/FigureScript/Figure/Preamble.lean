import FigureScript.Figure.Basic

/-!
# The start of a script

Imports, the style, and the list that collects what is drawn.
-/

namespace FigureScript.Figure

/-- Import the plotting library; where no window system is at hand, choose a backend without one
first. -/
def imports : List Statement :=
  [.importModule "warnings",
    .evaluate (.method (.name "warnings") "simplefilter" [.quoted "ignore"]),
    .attempt,
    .nested (.importAll "pylab"),
    .rescue "TypeError" "e",
    .nested (.evaluate (.call (.name "print") [.call (.name "str") [.name "e"]])),
    .nested (.evaluate (.call (.name "print") [.quoted "Falling back to Agg backend"])),
    .nested (.importModule "matplotlib"),
    .nested (.evaluate (.method (.name "matplotlib") "use" [.quoted "Agg"])),
    .nested (.importAll "pylab"),
    .importModule "itertools"]

def styleStatements (style : Style) : List Statement :=
  if style.styling then
    let sns := Expr.name "sns"
    [.importAs "seaborn" "sns",
      .evaluate (.method sns "set" [.named "style" (.quoted style.token)]),
      .evaluate (.method sns "set_context" [.quoted "paper"]),
      .assign ["palette"]
        (.method (.name "itertools") "cycle" [.method sns "color_palette" []])]
  else []

def preamble (figure : Figure) : List Statement :=
  imports ++ styleStatements figure.style ++ [.assign ["lines"] (.list [])]

end FigureScript.Figure
