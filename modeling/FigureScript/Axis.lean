import FigureScript.Given
import FigureScript.Script.Syntax

/-!
# Settings of one axis
-/

namespace FigureScript

structure Axis where
  label : Option String := none
  limits : Option (Float × Float) := none
  deriving BEq, Repr

namespace Axis

def labelText (axis : Axis) : Option String := Given.text axis.label

def limitsExpr (axis : Axis) : Option Expr :=
  axis.limits.map fun limits => .numbers [limits.1, limits.2]

end Axis

inductive TickSet where
  | major
  | minor
  deriving DecidableEq, Repr

def TickSet.name : TickSet → String
  | major => "major"
  | minor => "minor"

/-- Both sets, in the order in which they are configured. -/
def TickSet.all : List TickSet := [.major, .minor]

end FigureScript
