import FigureScript.Layout
import FigureScript.Series.Writing

/-!
# Matrices

Rows of numbers shown as an image, or as a Hinton diagram, where the area of a square shows the
magnitude of a number.
-/

namespace FigureScript

structure Matrix where
  values : List (List Float) := []
  colorMap : Option String := none
  hinton : Bool := false
  label : Option String := none
  cell : Cell := {}
  deriving BEq, Repr

namespace Matrix

/-- The number of rows, and the number of values in the first of them. -/
def shape (matrix : Matrix) : Nat × Nat :=
  (matrix.values.length, (matrix.values.head?.map List.length).getD 0)

/-- The first row of another length, with its index. -/
def unequalRow (expected : Nat) : (index : Nat) → List (List Float) → Option (Nat × Nat)
  | _, [] => none
  | index, row :: rest =>
    if row.length = expected then unequalRow expected (index + 1) rest
    else some (index, row.length)

def check (matrix : Matrix) : Except SeriesError Unit :=
  let (rows, columns) := matrix.shape
  if rows = 0 ∨ columns = 0 then .error .noMatrix
  else
    match unequalRow columns 0 matrix.values with
    | some (index, length) => .error (.unequalRow index length columns)
    | none => .ok ()

def defaultColorMap : String := "gray"

/-- A Hinton diagram has no use for a color map. -/
def ignoresColorMap (matrix : Matrix) : Bool := matrix.hinton && matrix.colorMap.isSome

def bindRows (matrix : Matrix) : Statement :=
  .assign ["x"] (.call (.name "array") [.numberRows matrix.values])

def display (matrix : Matrix) (axes : Axes) : List Statement :=
  if matrix.hinton then
    [.importFrom "mpltools" "special",
      .evaluate (.call (.name "sca") [axes.expr]),
      .evaluate (.method (.name "special") "hinton" [.name "x"])]
  else
    [.evaluate (.method axes.expr "matshow"
      [.name "x", .named "cmap" (.quoted (matrix.colorMap.getD defaultColorMap))])]

def draw (matrix : Matrix) (axes : Axes) : Except SeriesError (List Statement) :=
  match matrix.check with
  | .error error => .error error
  | .ok () => .ok (matrix.bindRows :: matrix.display axes)

def write (matrix : Matrix) (axes : Axes) : Writing Unit := do
  Writing.lift matrix.check
  if matrix.ignoresColorMap then Writing.report .colorMapIgnored
  Writing.line matrix.bindRows
  Writing.lines (matrix.display axes)

end Matrix

end FigureScript
