import FigureScript.Figure.Compile
import FigureScript.Machine

/-!
# Saving a script
-/

namespace FigureScript.Figure

/-- Compile a figure and write the script to a file. A figure that is not valid changes no file. -/
def save (figure : Figure) (path : String) : Task FigureError Unit := do
  let script ← Task.logged id figure.compile
  Task.lift .file (← Task.write path (Utf8.encode script))

end FigureScript.Figure
