import FigureScript.Files.OsError
import FigureScript.Grid

/-!
# What can be wrong with a figure
-/

namespace FigureScript

/-- The lists that belong to the bars of a series one by one. -/
inductive BarList where
  | positions
  | categories
  | errors
  deriving DecidableEq, Repr

def BarList.name : BarList → String
  | positions => "positions"
  | categories => "categories"
  | errors => "errors"

inductive SeriesError where
  | unequalPoints (x y : Nat)
  | noPoints
  | noHeights
  | unequalBars (list : BarList) (entries values : Nat)
  | noCenter
  | noErrors
  | unequalErrors (errors values : Nat)
  | noMatrix
  | unequalRow (row values expected : Nat)
  | paletteWithoutStyling
  deriving DecidableEq, Repr

def SeriesError.message : SeriesError → String
  | unequalPoints x y => "x has " ++ toString x ++ " values but y has " ++ toString y
  | noPoints => "x and y should not both be empty"
  | noHeights => "bar values should not be empty"
  | unequalBars list entries values =>
    "bar " ++ list.name ++ " has " ++ toString entries ++ " entries but there are " ++
      toString values ++ " values"
  | noCenter => "error band needs independent values"
  | noErrors => "error band needs error values"
  | unequalErrors errors values =>
    "error band has " ++ toString errors ++ " errors for " ++ toString values ++ " values"
  | noMatrix => "matrix should not be empty"
  | unequalRow row values expected =>
    "matrix row " ++ toString row ++ " has " ++ toString values ++ " values, expected " ++
      toString expected
  | paletteWithoutStyling => "palette colors need styling to be enabled"

/-- Why a figure has no script, or why its script cannot be saved. -/
inductive FigureError where
  | series (error : SeriesError)
  /-- Subplots and a twin axis at once. -/
  | layoutConflict
  | outsideGrid (address : OutsideGrid)
  | file (error : OsError)
  deriving DecidableEq, Repr

def FigureError.message : FigureError → String
  | series error => "Invalid series configuration: " ++ error.message
  | layoutConflict => "Simultaneous subplots and twin axis are not supported"
  | outsideGrid address =>
    "Invalid row/column specification: cell (" ++ toString address.cell.row ++ ", " ++
      toString address.cell.column ++ ") in a " ++ toString address.rows ++ "x" ++
      toString address.columns ++ " grid"
  | file error => "IO error: " ++ error.message

end FigureScript
