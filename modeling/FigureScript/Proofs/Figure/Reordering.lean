import Mathlib.Data.List.Perm.Basic
import FigureScript.Proofs.Figure.Compilation

namespace FigureScript.Figure

/-! # Other orders of the series

The order of the series decides where statements stand in a script, and nothing else. Drawing keeps
track of the cells it has configured; up to the order of statements that comes to one configuration
for every distinct cell.
-/

variable {figure other : Figure} {layout : Layout} {shape : Grid} {primary twin : List Series}

/-- The figure with other lists of primary and of twin series. -/
def reorder (figure : Figure) (primary twin : List Series) : Figure :=
  { figure with
    series := primary
    twin := figure.twin.map fun axis => { axis with series := twin } }

theorem twinSeries_reorder (second : twin.Perm figure.twinSeries) :
    (figure.reorder primary twin).twinSeries = twin := by
  cases present : figure.twin with
  | none =>
      have empty : twin = [] := by simpa [twinSeries, present] using second
      simp [twinSeries, reorder, present, empty]
  | some axis => simp [twinSeries, reorder, present]

theorem twinSeries_reorder_perm (second : twin.Perm figure.twinSeries) :
    (figure.reorder primary twin).twinSeries.Perm figure.twinSeries := by
  rw [twinSeries_reorder second]
  exact second

theorem isSome_twin_reorder :
    (figure.reorder primary twin).twin.isSome = figure.twin.isSome := by
  simp [reorder]

theorem yAxis_twin_reorder :
    (figure.reorder primary twin).twin.map TwinAxis.yAxis = figure.twin.map TwinAxis.yAxis := by
  simp [reorder, Function.comp_def]

theorem Valid.of_perm (valid : figure.Valid layout) (subplots : other.subplots = figure.subplots)
    (twin : other.twin.isSome = figure.twin.isSome) (style : other.style = figure.style)
    (primary : other.series.Perm figure.series)
    (second : other.twinSeries.Perm figure.twinSeries) : other.Valid layout where
  arranged := by rw [subplots, twin, valid.arranged]
  checked series member := valid.checked series ((primary.append second).subset member)
  styled series member := style ▸ valid.styled series ((primary.append second).subset member)
  inside series member := valid.inside series (primary.subset member)

theorem hasLabels_reorder (first : primary.Perm figure.series)
    (second : twin.Perm figure.twinSeries) :
    (figure.reorder primary twin).hasLabels = figure.hasLabels :=
  (first.append (twinSeries_reorder_perm second)).any_eq

/-! ## Cells -/

/-- Which series is alone in a cell does not depend on the order. -/
theorem cellTitle_of_perm (primary : other.series.Perm figure.series) (cell : Cell) :
    other.cellTitle cell = figure.cellTitle cell := by
  have occupants : (other.occupants cell).Perm (figure.occupants cell) := primary.filter _
  unfold cellTitle
  generalize other.occupants cell = others at occupants
  generalize figure.occupants cell = series at occupants
  rcases series with _ | ⟨first, _ | ⟨second, rest⟩⟩
  · rw [List.perm_nil.mp occupants]
  · rw [List.perm_singleton.mp occupants]
  · have crowded := occupants.length_eq
    rcases others with _ | ⟨one, _ | ⟨two, more⟩⟩
    · contradiction
    · simp at crowded
    · rfl

theorem distinctCells_perm {first second : List Series} (same : first.Perm second) :
    (distinctCells [] first).Perm (distinctCells [] second) := by
  refine (List.perm_ext_iff_of_nodup nodup_distinctCells nodup_distinctCells).mpr fun cell => ?_
  simp only [mem_distinctCells, same.mem_iff]

theorem legendCells_perm (primary : other.series.Perm figure.series) :
    other.legendCells.Perm figure.legendCells := by
  have labelled : other.isLabelled = figure.isLabelled := funext fun cell => primary.any_eq
  rw [legendCells, legendCells, labelled]
  exact (distinctCells_perm primary).filter _

/-! ## Drawing -/

/-- What is drawn for one series of a grid, whatever the cells configured before. -/
def boundFragment (shape : Grid) (series : Series) : List Statement :=
  .assign ["ax"] (shape.selector series.cell) ::
    series.drawn ((Layout.grid shape).primaryAxes series.cell)

/-- Each series is bound and drawn once, and each cell not yet configured is configured once. -/
theorem primarySteps_perm (figure : Figure) (configured : List Cell) (series : List Series) :
    ((figure.primarySteps (.grid shape) configured series).flatMap Step.statements).Perm
      (series.flatMap (boundFragment shape) ++
        (distinctCells configured series).flatMap figure.cellStatements) := by
  induction series generalizing configured with
  | nil => exact .refl _
  | cons one rest ih =>
      have others := ih (one.cell :: configured)
      simp only [primarySteps, List.flatMap_cons, Step.statements, Step.fragment, bindCell_of_grid,
        distinctCells, boundFragment, List.cons_append, List.append_assoc]
      refine .cons _ ?_
      by_cases known : one.cell ∈ configured
      · have seen : distinctCells (one.cell :: configured) rest = distinctCells configured rest :=
          distinctCells_congr fun cell => by simpa using fun same => same ▸ known
        rw [seen] at others
        rw [if_pos known, if_pos known, List.nil_append]
        exact others.append_left _
      · -- The settings of a new cell stand before its first fragment, and move behind all of them.
        rw [if_neg known, if_neg known, List.flatMap_cons]
        exact ((others.append_left _).append_left _).trans
          ((List.perm_append_comm_assoc _ _ _).trans
            ((List.perm_append_comm_assoc _ _ _).append_left _))

theorem cellStatements_reorder (first : primary.Perm figure.series) :
    (figure.reorder primary twin).cellStatements = figure.cellStatements := by
  funext cell
  have title : (figure.reorder primary twin).cellTitle cell = figure.cellTitle cell :=
    cellTitle_of_perm first cell
  simp only [cellStatements, title]
  rfl

/-- The same statements are drawn, in another order. -/
theorem flatMap_steps_perm (first : primary.Perm figure.series)
    (second : twin.Perm figure.twinSeries) :
    (((figure.reorder primary twin).steps layout).flatMap Step.statements).Perm
      ((figure.steps layout).flatMap Step.statements) := by
  have drawn : (((figure.reorder primary twin).twinSteps).flatMap Step.statements).Perm
      (figure.twinSteps.flatMap Step.statements) := by
    rw [flatMap_twinSteps, flatMap_twinSteps, twinSeries_reorder second]
    exact second.flatMap_right _
  rw [steps, steps, List.flatMap_append, List.flatMap_append]
  refine List.Perm.append ?_ drawn
  cases grid : layout.isGrid with
  | false =>
      rw [flatMap_primarySteps_of_plain grid, flatMap_primarySteps_of_plain grid]
      exact first.flatMap_right _
  | true =>
      cases layout with
      | single | twin => contradiction
      | grid shape =>
          have bound : ((figure.reorder primary twin).series.flatMap (boundFragment shape)).Perm
              (figure.series.flatMap (boundFragment shape)) := first.flatMap_right _
          have configured := (distinctCells_perm first).flatMap_right figure.cellStatements
          refine (primarySteps_perm _ [] primary).trans ?_
          rw [cellStatements_reorder first]
          exact (bound.append configured).trans (primarySteps_perm figure [] figure.series).symm

/-! ## Scripts -/

theorem legendStatements_perm (first : primary.Perm figure.series)
    (second : twin.Perm figure.twinSeries) :
    ((figure.reorder primary twin).legendStatements layout).Perm
      (figure.legendStatements layout) := by
  have cells : (figure.reorder primary twin).legendCells.Perm figure.legendCells :=
    legendCells_perm first
  simp only [legendStatements, hasLabels_reorder first second]
  split
  · cases layout with
    | single | twin => exact .refl _
    | grid shape => exact cells.map _
  · exact .refl _

theorem configuration_reorder :
    (figure.reorder primary twin).configuration layout = figure.configuration layout := by
  have axesTexts : (figure.reorder primary twin).axesTexts = figure.axesTexts := by
    simp only [Figure.axesTexts, yAxis_twin_reorder, isSome_twin_reorder]
    rfl
  simp only [configuration, axesTexts]
  rfl

theorem postamble_reorder (first : primary.Perm figure.series)
    (second : twin.Perm figure.twinSeries) :
    (figure.reorder primary twin).postamble = figure.postamble := by
  simp only [postamble, saveStatement, hasLabels_reorder first second]
  rfl

theorem written_perm (first : primary.Perm figure.series)
    (second : twin.Perm figure.twinSeries) :
    ((figure.reorder primary twin).written layout).Perm (figure.written layout) := by
  rw [written, written, configuration_reorder, postamble_reorder first second]
  refine .append_right _ (.append_right _ ?_)
  exact ((flatMap_steps_perm first second).append_left _).append (legendStatements_perm first second)

/-- Another order of the primary and of the twin series is compiled exactly when the first one is, and
the two scripts consist of the same statements, each as often as in the other. -/
theorem compile_reorder_perm (first : primary.Perm figure.series)
    (second : twin.Perm figure.twinSeries) :
    ((∃ script, (figure.reorder primary twin).compile.result = .ok script) ↔
      ∃ script, figure.compile.result = .ok script) ∧
    ∀ script reordered, figure.compile.result = .ok script →
      (figure.reorder primary twin).compile.result = .ok reordered →
      ∃ layout statements others, figure.Emits script layout statements ∧
        (figure.reorder primary twin).Emits reordered layout others ∧ others.Perm statements := by
  have other : (figure.reorder primary twin).twinSeries.Perm figure.twinSeries :=
    twinSeries_reorder_perm second
  have valid_iff : ∀ layout,
      (figure.reorder primary twin).Valid layout ↔ figure.Valid layout := fun layout =>
    ⟨fun valid => valid.of_perm rfl isSome_twin_reorder.symm rfl first.symm other.symm,
      fun valid => valid.of_perm rfl isSome_twin_reorder rfl first other⟩
  constructor
  · simp only [compile_eq_ok_iff, valid_iff]
    constructor
    · rintro ⟨_, layout, valid, _⟩
      exact ⟨_, layout, valid, rfl⟩
    · rintro ⟨_, layout, valid, _⟩
      exact ⟨_, layout, valid, rfl⟩
  · intro script reordered compiled recompiled
    obtain ⟨layout, valid, emits⟩ := emits_written compiled
    obtain ⟨same, revalid, reemits⟩ := emits_written recompiled
    have settled : same = layout := by
      have validated := validate_eq_ok_iff.mpr valid
      rw [validate_eq_ok_iff.mpr ((valid_iff same).mp revalid)] at validated
      exact Except.ok.inj validated
    subst settled
    exact ⟨same, _, _, emits, reemits, written_perm first second⟩

/-- Two cells; from either end the series come to the first cell first. -/
def palindromicCells : Figure where
  subplots := some { rows := 1, columns := 2 }
  series :=
    [.line { x := some [1.0], label := some "a" },
      .scatter { x := some [2.0], label := some "b", cell := { column := 1 } },
      .line { y := some [3.0] }]

theorem palindromicCells_reorder_perm :
    ∃ script reordered, palindromicCells.compile.result = .ok script ∧
      (palindromicCells.reorder palindromicCells.series.reverse []).compile.result = .ok reordered ∧
      ∃ layout statements others, palindromicCells.Emits script layout statements ∧
        (palindromicCells.reorder palindromicCells.series.reverse []).Emits reordered layout others ∧
        others.Perm statements := by
  have validated : palindromicCells.validate = .ok (.grid { rows := 1, columns := 2 }) := rfl
  have compiled := compile_eq_ok_iff.mpr ⟨_, validate_eq_ok_iff.mp validated, rfl⟩
  obtain ⟨succeeds, same⟩ := compile_reorder_perm palindromicCells.series.reverse_perm (.refl [])
  obtain ⟨reordered, recompiled⟩ := succeeds.mpr ⟨_, compiled⟩
  exact ⟨_, reordered, compiled, recompiled, same _ _ compiled recompiled⟩

end FigureScript.Figure
