import FigureScript.Log
import FigureScript.Script.Buffer
import FigureScript.Series.Band
import FigureScript.Series.Bars
import FigureScript.Series.Matrix
import FigureScript.Series.Trace
import FigureScript.Series.Writing

/-!
# Series

One set of data drawn on the axes of a figure. Whatever its kind, a series has a label, a cell and a
color, says what is wrong with its values, and is drawn by a few statements.
-/

namespace FigureScript

inductive Series where
  | line (trace : Trace)
  | scatter (trace : Trace)
  | bar (bars : Bars)
  | errorBand (band : Band)
  | matrix (matrix : Matrix)
  deriving BEq, Repr

namespace Series

def label : Series → Option String
  | line trace | scatter trace => trace.label
  | bar bars => bars.label
  | errorBand band => band.label
  | matrix values => values.label

def cell : Series → Cell
  | line trace | scatter trace => trace.cell
  | bar bars => bars.cell
  | errorBand band => band.cell
  | matrix values => values.cell

/-- The explicit color. A matrix has none. -/
def color : Series → Option Color
  | line trace | scatter trace => trace.color
  | bar bars => bars.color
  | errorBand band => band.color
  | matrix _ => none

/-- The texts that ask for a legend. The label of a matrix counts among them, although it is not given to
a draw call. -/
def legendTexts : Series → List String
  | errorBand band => [band.label, band.errorLabel].filterMap Given.text
  | series => [series.label].filterMap Given.text

def hasLegendEntry (series : Series) : Bool := !series.legendTexts.isEmpty

def shape? : Series → Option (Nat × Nat)
  | matrix values => some values.shape
  | _ => none

def usesPalette (series : Series) : Bool := series.color.any Color.isPalette

def check : Series → Except SeriesError Unit
  | line trace | scatter trace => trace.check
  | bar bars => bars.check
  | errorBand band => band.check
  | matrix values => values.check

def statements (series : Series) (axes : Axes) : Except SeriesError (List Statement) :=
  match series with
  | line trace => trace.line axes
  | scatter trace => trace.scatter axes
  | bar bars => bars.draw axes
  | errorBand band => band.draw axes
  | matrix values => values.draw axes

def notes : Series → List Event
  | matrix values => if values.ignoresColorMap then [.colorMapIgnored] else []
  | _ => []

def write (series : Series) (axes : Axes) : Writing Unit :=
  match series with
  | line trace => trace.writeLine axes
  | scatter trace => trace.writeScatter axes
  | bar bars => bars.write axes
  | errorBand band => band.write axes
  | matrix values => values.write axes

/-- Draw the series at the end of a script. -/
def render (series : Series) (axes : Axes) (script : Script) : Logged (Except SeriesError Script) :=
  let (outcome, draft) := (series.write axes).run.run { script }
  ⟨draft.events, outcome.map fun _ => draft.script⟩

end Series

end FigureScript
