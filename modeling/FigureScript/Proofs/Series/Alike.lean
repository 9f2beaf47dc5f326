import FigureScript.Figure.Validity
import FigureScript.Proofs.Related
import FigureScript.Proofs.Series.Drawing

namespace FigureScript

/-! # Series that a script does not tell apart

Two series can be written down differently and still mean the same to a figure. `Series.Alike` is
what a figure asks of a series; where there is a grid, the cell counts as well.
-/

namespace Series

/-- Drawn by the same statements, with the same entry in a legend and the same title for a cell,
and, if they are placed, in the same cell. -/
structure Alike (placed : Bool) (series other : Series) : Prop where
  statements : ∀ axes, series.statements axes = other.statements axes
  usesPalette : series.usesPalette = other.usesPalette
  hasLegendEntry : series.hasLegendEntry = other.hasLegendEntry
  label : Given.text series.label = Given.text other.label
  cell : placed = true → series.cell = other.cell

namespace Alike

variable {placed : Bool} {series other : Series} {several others : List Series}

theorem unplaced (alike : series.Alike placed other) : series.Alike false other where
  statements := alike.statements
  usesPalette := alike.usesPalette
  hasLegendEntry := alike.hasLegendEntry
  label := alike.label
  cell := nofun

theorem check (alike : series.Alike placed other) : series.check = other.check := by
  rw [← series.map_statements .primary, ← other.map_statements .primary, alike.statements]

theorem drawn (alike : series.Alike placed other) (axes : Axes) :
    series.drawn axes = other.drawn axes := by
  rw [Series.drawn, Series.drawn, alike.statements]

theorem checkSeries (alike : series.Alike placed other) {style second : Style}
    (styling : style.styling = second.styling) :
    Figure.checkSeries style series = Figure.checkSeries second other := by
  rw [Figure.checkSeries, Figure.checkSeries, alike.check, alike.usesPalette, styling]

theorem flatMap_drawn (alike : List.Forall₂ (Alike placed) several others) (axes : Axes) :
    several.flatMap (fun one => one.drawn axes) = others.flatMap fun one => one.drawn axes :=
  Related.flatMap_eq alike fun _ _ same => same.drawn axes

theorem any_hasLegendEntry (alike : List.Forall₂ (Alike placed) several others) :
    several.any Series.hasLegendEntry = others.any Series.hasLegendEntry :=
  Related.any_eq alike fun _ _ same => same.hasLegendEntry

end Alike

end Series

end FigureScript
