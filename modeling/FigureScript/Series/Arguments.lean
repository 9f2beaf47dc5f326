import FigureScript.Color
import FigureScript.Given
import FigureScript.Number.Binary64

/-!
# What the kinds of series share

Optional arguments of draw calls, and the index that stands in for missing positions.
-/

namespace FigureScript.Series

def colorArgument (color : Option Color) : List Expr :=
  match color with
  | some color => [.named "color" color.expr]
  | none => []

/-- The `label` argument, where there is a label to show. -/
def labelArgument (label : Option String) : List Expr :=
  match Given.text label with
  | some text => [.named "label" (.quoted text)]
  | none => []

def ordinal (count : Nat) : List Float := (List.range count).map Binary64.ofNat

/-- Register the result of a draw call among the lines that a common legend shows. -/
def register (call : Expr) : Statement := .evaluate (.method (.name "lines") "append" [call])

@[simp] theorem length_ordinal (count : Nat) : (ordinal count).length = count := by
  simp [ordinal]

end FigureScript.Series
