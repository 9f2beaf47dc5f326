import FigureScript.Proofs.Figure.Compilation
import FigureScript.Proofs.Series.Alike

namespace FigureScript

/-! # Figures with the same script

`Figure.Alike` is what compilation asks of a figure, setting by setting. Main statement: figures
that are alike compile to the same script, or fail with the same error.
-/

structure Axis.Alike (axis other : Axis) : Prop where
  labelText : axis.labelText = other.labelText
  limits : axis.limits = other.limits

structure TwinAxis.Alike (twin other : TwinAxis) : Prop where
  yAxis : twin.yAxis.Alike other.yAxis
  series : List.Forall₂ (Series.Alike false) twin.series other.series

namespace Figure

structure Alike (figure other : Figure) : Prop where
  title : Given.text figure.title = Given.text other.title
  xAxis : figure.xAxis.Alike other.xAxis
  yAxis : figure.yAxis.Alike other.yAxis
  twin : Option.Rel TwinAxis.Alike figure.twin other.twin
  subplots : figure.subplots = other.subplots
  series : List.Forall₂ (Series.Alike figure.subplots.isSome) figure.series other.series
  styling : figure.style.styling = other.style.styling
  token : figure.style.styling = true → figure.style.token = other.style.token
  legend : figure.hasLabels = true → figure.legend = other.legend
  tight : figure.hasLabels = true → figure.tight = other.tight
  outputPath : figure.outputPath = other.outputPath
  size : figure.size = other.size
  tickLabelSize : figure.tickLabelSize = other.tickLabelSize
  showWindow : figure.showWindow = other.showWindow
  block : figure.showWindow = true → figure.block = other.block

namespace Alike

variable {figure other : Figure} {layout : Layout}

theorem isSome_twin (alike : figure.Alike other) : figure.twin.isSome = other.twin.isSome := by
  rcases Related.option_cases alike.twin with ⟨absent, missing⟩ | ⟨twin, second, present, given, _⟩
  · rw [absent, missing]
  · rw [present, given]
    rfl

theorem twinSeries (alike : figure.Alike other) :
    List.Forall₂ (Series.Alike false) figure.twinSeries other.twinSeries := by
  rcases Related.option_cases alike.twin with
    ⟨absent, missing⟩ | ⟨twin, second, present, given, same⟩
  · rw [Figure.twinSeries, Figure.twinSeries, absent, missing]
    exact .nil
  · rw [Figure.twinSeries, Figure.twinSeries, present, given]
    exact same.series

theorem allSeries (alike : figure.Alike other) :
    List.Forall₂ (Series.Alike false) figure.allSeries other.allSeries :=
  List.rel_append (alike.series.imp fun _ _ same => same.unplaced) alike.twinSeries

theorem hasLabels (alike : figure.Alike other) : figure.hasLabels = other.hasLabels :=
  Series.Alike.any_hasLegendEntry alike.allSeries

/-! ## Validation -/

theorem validate (alike : figure.Alike other) : figure.validate = other.validate := by
  cases arranged : Layout.ofSettings figure.subplots figure.twin.isSome with
  | error error =>
      rw [validate_of_error arranged]
      rw [alike.subplots, alike.isSome_twin] at arranged
      rw [validate_of_error arranged]
  | ok layout =>
      have checks : figure.allSeries.forM (checkSeries figure.style) =
          other.allSeries.forM (checkSeries other.style) :=
        Related.forM_eq alike.allSeries fun _ _ same => same.checkSeries alike.styling
      have cells : figure.series.forM (locate layout) = other.series.forM (locate layout) := by
        refine Related.forM_eq alike.series fun one second same => ?_
        rcases Layout.ofSettings_cases arranged with ⟨rfl, _⟩ | ⟨rfl, _⟩ | ⟨shape, rfl, asked, _⟩
        · rfl
        · rfl
        · rw [locate, locate, same.cell (by simp [asked])]
      rw [validate_of_arranged arranged, checks, cells]
      rw [alike.subplots, alike.isSome_twin] at arranged
      rw [validate_of_arranged arranged]

theorem valid (alike : figure.Alike other) (valid : figure.Valid layout) : other.Valid layout := by
  rw [← validate_eq_ok_iff, ← alike.validate]
  exact validate_eq_ok_iff.mpr valid

/-- In a grid the cells of the series count. -/
theorem placed (alike : figure.Alike other) {shape : Grid} (valid : figure.Valid (.grid shape)) :
    List.Forall₂ (Series.Alike true) figure.series other.series := by
  have asked : figure.subplots.isSome = true := by
    rcases valid.layout_cases with ⟨impossible, _⟩ | ⟨impossible, _⟩ | ⟨_, _, subplots, _⟩
    · contradiction
    · contradiction
    · rw [subplots]
      rfl
  have series := alike.series
  rwa [asked] at series

/-! ## The parts of the script -/

theorem preamble (alike : figure.Alike other) : figure.preamble = other.preamble := by
  have style : styleStatements figure.style = styleStatements other.style := by
    unfold styleStatements
    rw [← alike.styling]
    split
    · rename_i styling
      rw [alike.token styling]
    · rfl
  rw [Figure.preamble, style, Figure.preamble]

theorem axesCreation (alike : figure.Alike other) :
    figure.axesCreation layout = other.axesCreation layout := by
  have size : figure.sizeStatements = other.sizeStatements := by
    rw [sizeStatements, sizeStatements, alike.size]
  cases layout <;> simp only [Figure.axesCreation, size]

theorem tickStatements (alike : figure.Alike other) (axes : Axes) :
    figure.tickStatements axes = other.tickStatements axes := by
  rw [Figure.tickStatements, Figure.tickStatements, alike.tickLabelSize]

theorem limitStatement (axes : Axes) (method : String) {axis second : Axis}
    (alike : axis.Alike second) :
    Figure.limitStatement axes method axis = Figure.limitStatement axes method second := by
  rw [Figure.limitStatement, Figure.limitStatement, Axis.limitsExpr, Axis.limitsExpr, alike.limits]

theorem limitStatements (alike : figure.Alike other) (axes : Axes) :
    figure.limitStatements axes = other.limitStatements axes := by
  rw [Figure.limitStatements, Figure.limitStatements, limitStatement axes "set_xlim" alike.xAxis,
    limitStatement axes "set_ylim" alike.yAxis]

theorem cellTitle (placed : List.Forall₂ (Series.Alike true) figure.series other.series)
    (cell : Cell) : figure.cellTitle cell = other.cellTitle cell := by
  have occupants : List.Forall₂ (Series.Alike true) (figure.occupants cell)
      (other.occupants cell) := by
    refine List.rel_filter ?_ placed
    intro one second same
    simp [same.cell rfl]
  unfold Figure.cellTitle
  generalize figure.occupants cell = first at occupants ⊢
  generalize other.occupants cell = last at occupants ⊢
  cases occupants with
  | nil => rfl
  | cons same rest =>
      cases rest with
      | nil => simp only [same.label]
      | cons => rfl

theorem cellStatements (alike : figure.Alike other)
    (placed : List.Forall₂ (Series.Alike true) figure.series other.series) (cell : Cell) :
    figure.cellStatements cell = other.cellStatements cell := by
  rw [Figure.cellStatements, Figure.cellStatements, cellTitle placed, alike.tickStatements,
    alike.limitStatements]

theorem primarySteps (alike : figure.Alike other)
    (placed : List.Forall₂ (Series.Alike true) figure.series other.series) {shape : Grid}
    {several others : List Series} (related : List.Forall₂ (Series.Alike true) several others)
    (configured : List Cell) :
    (figure.primarySteps (.grid shape) configured several).flatMap Step.statements =
      (other.primarySteps (.grid shape) configured others).flatMap Step.statements := by
  induction related generalizing configured with
  | nil => rfl
  | cons same _ ih =>
      simp only [Figure.primarySteps, List.flatMap_cons, Step.statements, Step.fragment,
        bindCell_of_grid, same.cell rfl, same.drawn, alike.cellStatements placed, ih]

theorem drawing (alike : figure.Alike other) (valid : figure.Valid layout) :
    (figure.steps layout).flatMap Step.statements =
      (other.steps layout).flatMap Step.statements := by
  have twin := Series.Alike.flatMap_drawn alike.twinSeries .twin
  cases layout with
  | grid shape =>
      have placed := alike.placed valid
      rw [Figure.steps, Figure.steps, List.flatMap_append, List.flatMap_append,
        alike.primarySteps placed placed, flatMap_twinSteps, flatMap_twinSteps, twin]
  | single | twin =>
      rw [flatMap_steps_of_plain rfl, flatMap_steps_of_plain rfl, twin,
        Series.Alike.flatMap_drawn alike.series]

theorem distinctCells {several others : List Series}
    (related : List.Forall₂ (Series.Alike true) several others) (seen : List Cell) :
    Figure.distinctCells seen several = Figure.distinctCells seen others := by
  induction related generalizing seen with
  | nil => rfl
  | cons same _ ih => simp only [Figure.distinctCells, same.cell rfl, ih]

theorem isLabelled (placed : List.Forall₂ (Series.Alike true) figure.series other.series)
    (cell : Cell) : figure.isLabelled cell = other.isLabelled cell :=
  Related.any_eq placed fun _ _ same => by rw [same.cell rfl, same.hasLegendEntry]

theorem legendStatements (alike : figure.Alike other) (valid : figure.Valid layout) :
    figure.legendStatements layout = other.legendStatements layout := by
  unfold Figure.legendStatements
  rw [← alike.hasLabels]
  split
  · rename_i labels
    cases layout with
    | single | twin => simp only [alike.legend labels]
    | grid shape =>
        have placed := alike.placed valid
        have cells : figure.legendCells = other.legendCells := by
          rw [legendCells, legendCells, distinctCells placed]
          exact List.filter_congr fun cell _ => isLabelled placed cell
        simp only [alike.legend labels, cells]
  · rfl

theorem configuration (alike : figure.Alike other) :
    figure.configuration layout = other.configuration layout := by
  have grid : figure.gridTexts = other.gridTexts := by
    rw [gridTexts, gridTexts, alike.title, alike.xAxis.labelText, alike.yAxis.labelText]
  have axes : figure.axesTexts = other.axesTexts := by
    rcases Related.option_cases alike.twin with
      ⟨absent, missing⟩ | ⟨twin, second, present, given, same⟩
    · simp only [axesTexts, absent, missing, alike.title, alike.xAxis.labelText,
        alike.yAxis.labelText, alike.tickStatements, alike.limitStatements]
    · simp only [axesTexts, present, given, alike.title, alike.xAxis.labelText,
        alike.yAxis.labelText, alike.tickStatements, alike.limitStatements, Option.map_some,
        Option.bind_some, Option.isSome_some, same.yAxis.labelText,
        limitStatement _ _ same.yAxis]
  rw [Figure.configuration, Figure.configuration, grid, axes]

theorem postamble (alike : figure.Alike other) : figure.postamble = other.postamble := by
  have save : figure.saveStatement = other.saveStatement := by
    unfold Figure.saveStatement
    rw [← alike.hasLabels, alike.outputPath]
    split
    · rename_i labels
      rw [alike.tight labels]
    · rfl
  unfold Figure.postamble
  rw [save, ← alike.showWindow]
  split
  · rename_i shown
    rw [alike.block shown]
  · rfl

theorem written (alike : figure.Alike other) (valid : figure.Valid layout) :
    figure.written layout = other.written layout := by
  rw [Figure.written, Figure.written, alike.preamble, alike.axesCreation, alike.drawing valid,
    alike.legendStatements valid, alike.configuration, alike.postamble]

/-! ## The result -/

/-- Either both are refused, with the same error, or both are valid. -/
theorem compile_eq_or_valid (alike : figure.Alike other) :
    figure.compile = other.compile ∨ ∃ layout, figure.Valid layout ∧ other.Valid layout := by
  cases validated : figure.validate with
  | error error =>
      have second : other.validate = .error error := alike.validate ▸ validated
      exact .inl (by rw [compile_of_error validated, compile_of_error second])
  | ok layout =>
      have valid := validate_eq_ok_iff.mp validated
      exact .inr ⟨layout, valid, alike.valid valid⟩

theorem result_compile (alike : figure.Alike other) :
    figure.compile.result = other.compile.result := by
  rcases alike.compile_eq_or_valid with same | ⟨layout, valid, second⟩
  · rw [same]
  · rw [compile_of_valid valid, compile_of_valid second, alike.written valid]

/-- Where the same is reported about both, nothing tells them apart. -/
theorem compile (alike : figure.Alike other) (warnings : figure.warnings = other.warnings)
    (notes : figure.allSeries.flatMap Series.notes = other.allSeries.flatMap Series.notes) :
    figure.compile = other.compile := by
  rcases alike.compile_eq_or_valid with same | ⟨layout, valid, second⟩
  · exact same
  · have announcement : figure.announcement layout = other.announcement layout := by
      rw [Figure.announcement, Figure.announcement, warnings, alike.series.length_eq,
        alike.twinSeries.length_eq]
    rw [compile_of_valid valid, compile_of_valid second, alike.written valid, announcement, notes]

end Alike

end Figure

end FigureScript
