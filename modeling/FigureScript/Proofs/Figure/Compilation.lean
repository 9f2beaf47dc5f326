import FigureScript.Figure.Compile
import FigureScript.Proofs.Figure.Cells
import FigureScript.Proofs.Figure.Faults
import FigureScript.Proofs.Figure.Steps
import FigureScript.Proofs.Series.Writing

namespace FigureScript.Figure

/-! # Compilation after validation

All that can be wrong with a figure is found by `validate`. For a figure that passes, every later
stage is a total function, and the script consists of the statements `written`.
-/

variable {figure : Figure} {layout : Layout}

def legendCells (figure : Figure) : List Cell :=
  (distinctCells [] figure.series).filter figure.isLabelled

theorem mem_legendCells {cell : Cell} :
    cell ∈ figure.legendCells ↔
      ∃ series ∈ figure.series, series.cell = cell ∧ series.hasLegendEntry = true := by
  rw [legendCells, List.mem_filter, mem_distinctCells]
  constructor
  · rintro ⟨_, labelled⟩
    simpa [isLabelled] using labelled
  · rintro ⟨series, member, same, entry⟩
    refine ⟨⟨by simp, series, member, same⟩, ?_⟩
    simpa [isLabelled] using ⟨series, member, same, entry⟩

theorem exists_legendCell (valid : figure.Valid layout) (isGrid : layout.isGrid = true)
    (labels : figure.hasLabels = true) : ∃ cell, cell ∈ figure.legendCells := by
  obtain ⟨series, member, entry⟩ := List.any_eq_true.mp labels
  rw [valid.allSeries_of_grid isGrid] at member
  exact ⟨series.cell, mem_legendCells.mpr ⟨series, member, rfl, entry⟩⟩

def legendStatements (figure : Figure) (layout : Layout) : List Statement :=
  if figure.hasLabels then
    match layout with
    | .single => [legendStatement Axes.primary.expr figure.legend.arguments]
    | .twin =>
      [collectLabels,
        legendStatement Axes.twin.expr
          ([.name "lines", .name "labels"] ++ figure.legend.arguments)]
    | .grid shape =>
      figure.legendCells.map fun cell =>
        legendStatement (shape.selector cell) figure.legend.arguments
  else []

theorem legends_eq (valid : figure.Valid layout) :
    figure.legends layout = .ok (figure.legendStatements layout) := by
  by_cases labels : figure.hasLabels = true
  · simp only [legends, legendStatements, if_pos labels]
    cases layout with
    | single => rfl
    | twin => rfl
    | grid shape =>
        refine Fallible.mapM_eq_ok_map fun cell member => ?_
        obtain ⟨series, drawn, same, _⟩ := mem_legendCells.mp member
        have inside : shape.contains cell := same ▸ valid.inside series drawn
        simp only [cellLegend, Grid.cellExpr_of_contains inside]
  · simp only [legends, legendStatements, if_neg labels]

/-- All statements of the script of a valid figure. -/
def written (figure : Figure) (layout : Layout) : List Statement :=
  figure.preamble ++ figure.axesCreation layout ++ (figure.steps layout).flatMap Step.statements ++
    figure.legendStatements layout ++ figure.configuration layout ++ figure.postamble

theorem statements_eq (valid : figure.Valid layout) :
    figure.statements layout = .ok (figure.written layout) := by
  simp only [statements, drawing_eq valid, legends_eq valid, bind, Except.bind, pure, Except.pure,
    written]

theorem compile_of_valid (valid : figure.Valid layout) :
    figure.compile =
      ⟨figure.announcement layout ++ figure.allSeries.flatMap Series.notes ++
          [.compiled (figure.written layout).length],
        .ok (Script.ofStatements (figure.written layout)).render⟩ := by
  simp only [compile, validate_eq_ok_iff.mpr valid, statements_eq valid, Script.lines_ofStatements,
    List.length_map]

theorem compile_of_error {error : FigureError} (refused : figure.validate = .error error) :
    figure.compile = ⟨[], .error error⟩ := by
  simp only [compile, refused]

theorem compile_eq_ok_iff {script : String} :
    figure.compile.result = .ok script ↔
      ∃ layout, figure.Valid layout ∧
        (Script.ofStatements (figure.written layout)).render = script := by
  cases validated : figure.validate with
  | error error =>
      constructor
      · intro compiled
        rw [compile_of_error validated] at compiled
        contradiction
      · rintro ⟨layout, valid, _⟩
        rw [validate_eq_ok_iff.mpr valid] at validated
        contradiction
  | ok settled =>
      have valid := validate_eq_ok_iff.mp validated
      rw [compile_of_valid valid]
      constructor
      · intro compiled
        exact ⟨settled, valid, Except.ok.inj compiled⟩
      · rintro ⟨layout, other, rendered⟩
        have same : settled = layout := by
          rw [validate_eq_ok_iff.mpr other] at validated
          exact (Except.ok.inj validated).symm
        rw [same, rendered]

/-- `script` is the text of `statements`, which are those of the figure in its layout. -/
structure Emits (figure : Figure) (script : String) (layout : Layout)
    (statements : List Statement) : Prop where
  validated : figure.validate = .ok layout
  stated : figure.statements layout = .ok statements
  rendered : (Script.ofStatements statements).render = script

theorem emits_written {script : String} (compiled : figure.compile.result = .ok script) :
    ∃ layout, figure.Valid layout ∧ figure.Emits script layout (figure.written layout) := by
  obtain ⟨layout, valid, rendered⟩ := compile_eq_ok_iff.mp compiled
  exact ⟨layout, valid, validate_eq_ok_iff.mpr valid, statements_eq valid, rendered⟩

theorem Valid.exists_emits (valid : figure.Valid layout) :
    ∃ script, figure.compile.result = .ok script ∧
      figure.Emits script layout (figure.written layout) :=
  ⟨_, compile_eq_ok_iff.mpr ⟨layout, valid, rfl⟩, validate_eq_ok_iff.mpr valid,
    statements_eq valid, rfl⟩

/-- The drawing phase takes these steps, one for each series, in drawing order. -/
structure Draws (figure : Figure) (layout : Layout) (steps : List Step) : Prop where
  drawing : figure.drawing layout = .ok (steps.flatMap Step.statements)
  series : steps.map Step.series = figure.allSeries
  fragments : ∀ step ∈ steps, fragment step.series step.axes = .ok step.fragment

theorem draws_steps (valid : figure.Valid layout) : figure.Draws layout (figure.steps layout) where
  drawing := drawing_eq valid
  series := series_steps
  fragments _ member := fragment_of_check (valid.checked _ (series_mem_of_step member)) _

/-- No fault of a figure is one of a file. -/
theorem validate_ne_file {reason : OsError} : figure.validate ≠ .error (.file reason) := by
  intro refused
  cases validate_fails_iff.mp refused

/-- Compilation and validation succeed together. An invalid figure gets the error of its validation
and no report. For a valid one the axes of every series are found, every series is drawn in whatever
script it is added to, and every cell that could get a legend has its expression. -/
theorem compile_agrees_with_validate (figure : Figure) :
    ((∃ script, figure.compile.result = .ok script) ↔ ∃ layout, figure.validate = .ok layout) ∧
    (∀ error, figure.validate = .error error → figure.compile = ⟨[], .error error⟩) ∧
    (∀ layout, figure.validate = .ok layout →
      (∀ series ∈ figure.series, ∃ axes, layout.axesAt series.cell = .ok axes) ∧
      (figure.twin.isSome = true → ∃ axes, layout.twinAxes = .ok axes) ∧
      (∀ series ∈ figure.allSeries, ∀ axes script, ∃ statements,
        fragment series axes = .ok statements ∧
        (series.render axes script).result = .ok (script.append statements)) ∧
      (∀ shape, layout = .grid shape →
        ∀ series ∈ figure.series, ∃ axes, shape.cellExpr series.cell = .ok axes) ∧
      (∃ statements, figure.drawing layout = .ok statements) ∧
      (∃ statements, figure.legends layout = .ok statements)) ∧
    ∀ reason, figure.compile.result ≠ .error (.file reason) := by
  refine ⟨?succeeds, fun error refused => compile_of_error refused, ?later, ?noFile⟩
  case succeeds =>
    constructor
    · rintro ⟨script, compiled⟩
      obtain ⟨layout, valid, _⟩ := compile_eq_ok_iff.mp compiled
      exact ⟨layout, validate_eq_ok_iff.mpr valid⟩
    · rintro ⟨layout, validated⟩
      exact ⟨_, compile_eq_ok_iff.mpr ⟨layout, validate_eq_ok_iff.mp validated, rfl⟩⟩
  case later =>
    intro layout validated
    have valid := validate_eq_ok_iff.mp validated
    refine ⟨?_, ?_, ?_, ?_, ⟨_, drawing_eq valid⟩, ⟨_, legends_eq valid⟩⟩
    · intro series member
      exact ⟨_, Layout.axesAt_of_contains (valid.inside series member)⟩
    · intro present
      obtain ⟨twin, present⟩ := Option.isSome_iff_exists.mp present
      rw [valid.layout_eq_twin present]
      exact ⟨.twin, rfl⟩
    · intro series member axes script
      have checked := valid.checked series member
      exact ⟨series.drawn axes, fragment_of_check checked axes,
        Series.result_render_of_check checked axes script⟩
    · rintro shape rfl series member
      exact ⟨_, Grid.cellExpr_of_contains (valid.inside series member)⟩
  case noFile =>
    intro reason refused
    cases validated : figure.validate with
    | error error =>
        rw [compile_of_error validated] at refused
        cases refused
        exact validate_ne_file validated
    | ok layout =>
        rw [compile_of_valid (validate_eq_ok_iff.mp validated)] at refused
        contradiction

end FigureScript.Figure
