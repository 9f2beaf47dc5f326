import FigureScript.Figure.Basic

/-!
# Which figures can be compiled

The layout is settled first, then every series is checked in drawing order, and at last the cells of
the primary series are looked up in the grid.
-/

namespace FigureScript.Figure

def checkSeries (style : Style) (series : Series) : Except FigureError Unit :=
  match series.check with
  | .error error => .error (.series error)
  | .ok () =>
    if series.usesPalette && !style.styling then .error (.series .paletteWithoutStyling)
    else .ok ()

def validate (figure : Figure) : Except FigureError Layout := do
  let layout ← Layout.ofSettings figure.subplots figure.twin.isSome
  figure.allSeries.forM (checkSeries figure.style)
  figure.series.forM fun series => do
    let _ ← layout.axesAt series.cell
  return layout

end FigureScript.Figure
