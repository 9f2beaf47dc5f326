import FigureScript.Figure.Document
import FigureScript.Figure.Error

/-!
# What can go wrong on the way to a plot
-/

namespace FigureScript

inductive RunError where
  | openConfig (path : String) (error : OsError)
  | readConfig (path : String) (error : OsError)
  | parseConfig (path : String) (failure : Json.Failure)
  | createScript (path : String) (error : OsError)
  | spawn (interpreter : String) (error : OsError)
  | readFigure (path : String) (error : OsError)
  | describeFigure (path : String) (error : DescriptionError)
  | figure (error : FigureError)
  | writeScript (path : String) (error : OsError)

def RunError.message : RunError → String
  | openConfig path error => "Failed to open config " ++ path ++ ": " ++ error.message
  | readConfig path error => "Failed to parse config " ++ path ++ ": " ++ error.message
  | parseConfig path failure => "Failed to parse config " ++ path ++ ": " ++ failure.message
  | createScript path error => "Failed to create script " ++ path ++ ": " ++ error.message
  | spawn interpreter error =>
    "Failed to spawn plotting process " ++ interpreter ++ ": " ++ error.message
  | readFigure path error => "Failed to read figure " ++ path ++ ": " ++ error.message
  | describeFigure path error => "Invalid figure description " ++ path ++ ": " ++ error.message
  | figure error => error.message
  | writeScript path error => "Failed to write script " ++ path ++ ": " ++ error.message

end FigureScript
