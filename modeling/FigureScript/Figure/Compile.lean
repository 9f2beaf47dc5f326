import FigureScript.Figure.Drawing
import FigureScript.Figure.Finish
import FigureScript.Figure.Legends
import FigureScript.Figure.Preamble
import FigureScript.Figure.Validity

/-!
# From a figure to its script

A script has six parts in a fixed order: imports and style, creation of the axes, drawing, legends,
the settings of the whole figure, and saving. All that can be wrong with a figure is found before the
first part is written.
-/

namespace FigureScript.Figure

def statements (figure : Figure) (layout : Layout) : Except FigureError (List Statement) := do
  let drawn ← figure.drawing layout
  let legends ← figure.legends layout
  return figure.preamble ++ figure.axesCreation layout ++ drawn ++ legends ++
    figure.configuration layout ++ figure.postamble

/-- The texts that are checked for characters which end a literal, in the order of the reports. -/
def checkedTexts (figure : Figure) : List String :=
  ([figure.title, figure.xAxis.label, figure.yAxis.label,
      figure.twin.bind fun twin => twin.yAxis.label, figure.outputName] ++
    figure.allSeries.map Series.label).filterMap id

def warnings (figure : Figure) : List Event :=
  (figure.checkedTexts.filter Literal.isUnsafe).map Event.unsafeText

/-- What is reported before the script is written. -/
def announcement (figure : Figure) (layout : Layout) : List Event :=
  figure.warnings ++ [.compiling figure.series.length figure.twinSeries.length layout]

/-- The text of the script. Nothing is reported about a figure that is not valid. -/
def compile (figure : Figure) : Logged (Except FigureError String) :=
  match figure.validate with
  | .error error => ⟨[], .error error⟩
  | .ok layout =>
    match figure.statements layout with
    | .error error => ⟨figure.announcement layout, .error error⟩
    | .ok statements =>
      let script := Script.ofStatements statements
      ⟨figure.announcement layout ++ figure.allSeries.flatMap Series.notes ++
          [.compiled script.lines.length],
        .ok script.render⟩

end FigureScript.Figure
