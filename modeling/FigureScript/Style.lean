/-!
# Styling
-/

namespace FigureScript

structure Style where
  /-- Without styling the script has no style statements and no palette. -/
  styling : Bool := true
  dark : Bool := true
  grid : Bool := true
  deriving DecidableEq, Repr

namespace Style

/-- The name of the style: `darkgrid`, `dark`, `whitegrid` or `white`. -/
def token (style : Style) : String :=
  (if style.dark then "dark" else "white") ++ (if style.grid then "grid" else "")

/-- The style with its grid lines switched off, as matrices are shown. -/
def withoutGrid (style : Style) : Style := { style with grid := false }

end Style

end FigureScript
