import FigureScript.Axis
import FigureScript.FileName
import FigureScript.Legend
import FigureScript.Series.Basic
import FigureScript.Style

/-!
# Figures

A figure describes one image: its series, its axes and how it is saved and shown.
-/

namespace FigureScript

/-- A second y-axis on the x-range of the first one, with the series drawn against it. -/
structure TwinAxis where
  yAxis : Axis := {}
  series : List Series := []
  deriving BEq, Repr

structure Figure where
  title : Option String := none
  xAxis : Axis := {}
  yAxis : Axis := {}
  legend : Legend := {}
  style : Style := {}
  twin : Option TwinAxis := none
  subplots : Option Grid := none
  series : List Series := []
  outputName : Option String := none
  /-- Width and height in inches. -/
  size : Option (Float × Float) := none
  tickLabelSize : Option Float := none
  /-- Cut the saved image to its content when it has a legend. -/
  tight : Bool := false
  /-- Open a window after saving. -/
  showWindow : Bool := true
  /-- Wait until that window is closed. -/
  block : Bool := true
  deriving BEq, Repr

namespace TwinAxis

def add (twin : TwinAxis) (series : Series) : TwinAxis :=
  { twin with series := twin.series ++ [series] }

end TwinAxis

namespace Figure

def twinSeries (figure : Figure) : List Series :=
  match figure.twin with
  | some twin => twin.series
  | none => []

def allSeries (figure : Figure) : List Series := figure.series ++ figure.twinSeries

def hasLabels (figure : Figure) : Bool := figure.allSeries.any Series.hasLegendEntry

def outputPath (figure : Figure) : String := FileName.figure figure.outputName

def add (figure : Figure) (series : Series) : Figure :=
  { figure with series := figure.series ++ [series] }

@[simp] theorem series_add (figure : Figure) (series : Series) :
    (figure.add series).series = figure.series ++ [series] := rfl

@[simp] theorem twinSeries_add (figure : Figure) (series : Series) :
    (figure.add series).twinSeries = figure.twinSeries := rfl

def withXLabel (figure : Figure) (label : String) : Figure :=
  { figure with xAxis := { figure.xAxis with label := some label } }

def withYLabel (figure : Figure) (label : String) : Figure :=
  { figure with yAxis := { figure.yAxis with label := some label } }

def withXLimits (figure : Figure) (least greatest : Float) : Figure :=
  { figure with xAxis := { figure.xAxis with limits := some (least, greatest) } }

def withYLimits (figure : Figure) (least greatest : Float) : Figure :=
  { figure with yAxis := { figure.yAxis with limits := some (least, greatest) } }

def withLegendAt (figure : Figure) (position : LegendPosition) : Figure :=
  { figure with legend := { figure.legend with position } }

def withGrid (figure : Figure) (grid : Bool) : Figure :=
  { figure with style := { figure.style with grid } }

def withDark (figure : Figure) (dark : Bool) : Figure :=
  { figure with style := { figure.style with dark } }

end Figure

end FigureScript
