import FigureScript.Script.Syntax

/-!
# Colors of series
-/

namespace FigureScript

inductive Color where
  /-- The next color of the palette, which exists only with styling. -/
  | palette
  /-- Any color that the plotting library knows by a text. -/
  | named (name : String)
  deriving DecidableEq, Repr

namespace Color

def blue : Color := named "b"

/-- The value of a `color` argument. Every evaluation of the palette expression takes one color off
the cycle. -/
def expr : Color → Expr
  | palette => .call (.name "next") [.name "palette"]
  | named name => .quoted name

def isPalette (color : Color) : Bool := color == palette

end Color

end FigureScript
