import FigureScript.Proofs.Figure.Validity
import FigureScript.Proofs.Series.Consistency

namespace FigureScript

/-! # What can be wrong with a figure

A figure is valid when its layout can be arranged, its series have consistent data and colors that
exist, and its cells are in the grid. Main statement: validation succeeds exactly then, whatever the
order of the series, and otherwise reports the first fault, in this order.
-/

theorem Grid.check_eq_ok_iff {shape : Grid} :
    shape.check = .ok () ↔ 0 < shape.rows ∧ 0 < shape.columns := by
  unfold check
  split <;> simp only [UInt64.pos_iff_ne_zero] <;> grind

namespace Series

/-- The data are consistent, and a palette color comes with the styling that makes the palette. -/
structure Sound (style : Style) (series : Series) : Prop where
  consistent : series.Consistent
  styled : series.color = some .palette → style.styling = true

/-- What is wrong with a series by itself. Its color is looked at only where its data are
consistent. -/
def Fault (style : Style) (series : Series) (error : SeriesError) : Prop :=
  series.check = .error error ∨
    series.Consistent ∧ series.color = some .palette ∧ style.styling = false ∧
      error = .paletteWithoutStyling

end Series

namespace Figure

variable {figure : Figure} {layout : Layout}

theorem checkSeries_eq_ok_iff_sound {style : Style} {series : Series} :
    checkSeries style series = .ok () ↔ series.Sound style := by
  rw [checkSeries_eq_ok_iff, Series.check_eq_ok_iff, Series.usesPalette_eq_true]
  exact ⟨fun both => ⟨both.1, both.2⟩, fun sound => ⟨sound.consistent, sound.styled⟩⟩

theorem checkSeries_eq_error_iff {style : Style} {series : Series} {error : FigureError} :
    checkSeries style series = .error error ↔
      ∃ reason, error = .series reason ∧ series.Fault style reason := by
  unfold checkSeries Series.Fault
  rw [← Series.check_eq_ok_iff, ← Series.usesPalette_eq_true]
  cases checked : series.check with
  | error reason =>
      simp only [Except.error.injEq, reduceCtorEq, false_and, or_false]
      constructor
      · rintro rfl
        exact ⟨reason, rfl, rfl⟩
      · rintro ⟨_, rfl, rfl⟩
        rfl
  | ok => cases series.usesPalette <;> cases style.styling <;> simp [eq_comm]

/-- The layout can be arranged: not both subplots and a second axis, and a grid that has cells. -/
structure Settled (figure : Figure) : Prop where
  exclusive : ¬ (figure.subplots.isSome = true ∧ figure.twin.isSome = true)
  addressable : ∀ shape ∈ figure.subplots, 0 < shape.rows ∧ 0 < shape.columns

/-- Nothing is wrong with the figure. The order of its series does not matter here. -/
structure Acceptable (figure : Figure) : Prop where
  settled : figure.Settled
  inside : ∀ shape ∈ figure.subplots, ∀ series ∈ figure.series,
    series.cell.row < shape.rows ∧ series.cell.column < shape.columns
  sound : ∀ series ∈ figure.series ++ figure.twinSeries, series.Sound figure.style

/-- `error` is about the first fault of the figure: a layout that cannot be arranged, then the first
series with a fault of its own, then the first one outside the grid. -/
inductive FirstFault (figure : Figure) : FigureError → Prop
  | conflict (subplots : figure.subplots.isSome = true) (twin : figure.twin.isSome = true) :
      FirstFault figure .layoutConflict
  | noCell {shape : Grid} (subplots : figure.subplots = some shape) (single : figure.twin = none)
      (empty : shape.rows = 0 ∨ shape.columns = 0) :
      FirstFault figure (.outsideGrid ⟨shape.rows, shape.columns, {}⟩)
  | series {before after : List Series} {bad : Series} {reason : SeriesError}
      (settled : figure.Settled)
      (split : figure.series ++ figure.twinSeries = before ++ bad :: after)
      (sound : ∀ one ∈ before, one.Sound figure.style) (fault : bad.Fault figure.style reason) :
      FirstFault figure (.series reason)
  | outside {shape : Grid} {before after : List Series} {bad : Series}
      (settled : figure.Settled)
      (sound : ∀ one ∈ figure.series ++ figure.twinSeries, one.Sound figure.style)
      (subplots : figure.subplots = some shape)
      (split : figure.series = before ++ bad :: after)
      (inside : ∀ one ∈ before, shape.contains one.cell) (other : ¬ shape.contains bad.cell) :
      FirstFault figure (.outsideGrid ⟨shape.rows, shape.columns, bad.cell⟩)

/-- The arrangement of the axes that a figure asks for. -/
def arrangement (figure : Figure) : Layout :=
  match figure.subplots, figure.twin with
  | some shape, _ => .grid shape
  | none, some _ => .twin
  | none, none => .single

theorem Settled.arranged (settled : figure.Settled) :
    Layout.ofSettings figure.subplots figure.twin.isSome = .ok figure.arrangement := by
  obtain ⟨exclusive, addressable⟩ := settled
  unfold arrangement
  cases subplots : figure.subplots with
  | none => cases figure.twin <;> rfl
  | some shape =>
      have cells := Grid.check_eq_ok_iff.mpr (addressable shape subplots)
      cases twin : figure.twin with
      | none => simp [Layout.ofSettings, cells]
      | some axis => simp [subplots, twin] at exclusive

theorem settled_iff_arranged : figure.Settled ↔
    ∃ layout, Layout.ofSettings figure.subplots figure.twin.isSome = .ok layout := by
  constructor
  · intro settled
    exact ⟨_, settled.arranged⟩
  · rintro ⟨layout, arranged⟩
    rcases Layout.ofSettings_cases arranged with
      ⟨_, plain, _⟩ | ⟨_, plain, _⟩ | ⟨shape, _, subplots, single⟩
    · exact ⟨by simp [plain], by simp [plain]⟩
    · exact ⟨by simp [plain], by simp [plain]⟩
    · refine ⟨by simp [single], ?_⟩
      intro other same
      obtain rfl : shape = other := Option.some.inj (subplots.symm.trans same)
      refine Grid.check_eq_ok_iff.mp ?_
      cases checked : shape.check with
      | error address => simp [subplots, single, Layout.ofSettings, checked] at arranged
      | ok => rfl

/-- A layout is refused for two reasons, and the conflict comes first. -/
theorem arranged_eq_error_iff {error : FigureError} :
    Layout.ofSettings figure.subplots figure.twin.isSome = .error error ↔
      (figure.subplots.isSome = true ∧ figure.twin.isSome = true ∧ error = .layoutConflict) ∨
      ∃ shape, figure.subplots = some shape ∧ figure.twin = none ∧
        (shape.rows = 0 ∨ shape.columns = 0) ∧
        error = .outsideGrid ⟨shape.rows, shape.columns, {}⟩ := by
  cases subplots : figure.subplots with
  | none => cases figure.twin <;> simp [Layout.ofSettings]
  | some shape =>
      cases twin : figure.twin with
      | some axis => simp [Layout.ofSettings, eq_comm]
      | none =>
          by_cases empty : shape.rows = 0 ∨ shape.columns = 0
          · simp [Layout.ofSettings, Grid.check, Grid.outside, empty, eq_comm]
          · simp [Layout.ofSettings, Grid.check, empty]

theorem locate_eq_error_iff {series : Series} {error : FigureError} :
    locate layout series = .error error ↔
      ∃ shape, layout = .grid shape ∧ ¬ shape.contains series.cell ∧
        error = .outsideGrid ⟨shape.rows, shape.columns, series.cell⟩ := by
  unfold locate
  cases layout with
  | single => simp [Layout.axesAt, Except.map]
  | twin => simp [Layout.axesAt, Except.map]
  | grid shape =>
      by_cases inside : shape.contains series.cell
      · simp [Layout.axesAt, Grid.cellExpr_of_contains inside, Except.map, inside]
      · simp [Layout.axesAt, Grid.cellExpr_of_not_contains inside, Grid.outside, Except.map, inside,
          eq_comm]

theorem contains_arrangement {cell : Cell} :
    figure.arrangement.contains cell ↔ ∀ shape ∈ figure.subplots, shape.contains cell := by
  unfold arrangement
  cases figure.subplots with
  | none => cases figure.twin <;> simp [Layout.contains]
  | some shape => simp [Layout.contains]

theorem arrangement_eq_grid_iff {shape : Grid} :
    figure.arrangement = .grid shape ↔ figure.subplots = some shape := by
  unfold arrangement
  cases figure.subplots with
  | none => cases figure.twin <;> simp
  | some other => simp

theorem validate_succeeds_iff : (∃ layout, figure.validate = .ok layout) ↔ figure.Acceptable := by
  constructor
  · rintro ⟨layout, validated⟩
    have valid := validate_eq_ok_iff.mp validated
    have settled := settled_iff_arranged.mpr ⟨layout, valid.arranged⟩
    obtain rfl : figure.arrangement = layout :=
      Except.ok.inj (settled.arranged.symm.trans valid.arranged)
    refine ⟨settled, ?_, ?_⟩
    · intro shape subplots series member
      exact contains_arrangement.mp (valid.inside series member) shape subplots
    · intro series member
      exact checkSeries_eq_ok_iff_sound.mp
        (checkSeries_eq_ok_iff.mpr ⟨valid.checked series member, valid.styled series member⟩)
  · intro acceptable
    have passed := fun series member =>
      checkSeries_eq_ok_iff.mp (checkSeries_eq_ok_iff_sound.mpr (acceptable.sound series member))
    exact ⟨figure.arrangement, validate_eq_ok_iff.mpr
      { arranged := acceptable.settled.arranged
        checked := fun series member => (passed series member).1
        styled := fun series member => (passed series member).2
        inside := fun series member => contains_arrangement.mpr fun shape subplots =>
          acceptable.inside shape subplots series member }⟩

/-- Behind the layout, the first fault of a series comes before the first cell outside the grid. -/
theorem Settled.validate_eq_error_iff {error : FigureError} (settled : figure.Settled) :
    figure.validate = .error error ↔
      (∃ before bad after, figure.series ++ figure.twinSeries = before ++ bad :: after ∧
        (∀ one ∈ before, one.Sound figure.style) ∧
        ∃ reason, error = .series reason ∧ bad.Fault figure.style reason) ∨
      (∀ one ∈ figure.series ++ figure.twinSeries, one.Sound figure.style) ∧
        ∃ before bad after, figure.series = before ++ bad :: after ∧
          (∀ one ∈ before, figure.arrangement.contains one.cell) ∧
          ∃ shape, figure.subplots = some shape ∧ ¬ shape.contains bad.cell ∧
            error = .outsideGrid ⟨shape.rows, shape.columns, bad.cell⟩ := by
  rw [validate_of_arranged settled.arranged, Fallible.then_eq_error_iff, Fallible.then_eq_error_iff,
    Fallible.forM_eq_ok_iff, Fallible.forM_eq_error_iff, Fallible.forM_eq_error_iff]
  simp only [checkSeries_eq_ok_iff_sound, checkSeries_eq_error_iff, locate_eq_ok_iff,
    locate_eq_error_iff, arrangement_eq_grid_iff, reduceCtorEq, and_false, or_false, allSeries]

theorem validate_fails_iff {error : FigureError} :
    figure.validate = .error error ↔ figure.FirstFault error := by
  constructor
  · intro refused
    cases arranged : Layout.ofSettings figure.subplots figure.twin.isSome with
    | error first =>
        obtain rfl : first = error := by
          simpa [validate_of_error arranged] using refused
        rcases arranged_eq_error_iff.mp arranged with
          ⟨subplots, twin, rfl⟩ | ⟨shape, subplots, single, empty, rfl⟩
        · exact .conflict subplots twin
        · exact .noCell subplots single empty
    | ok layout =>
        have settled := settled_iff_arranged.mpr ⟨layout, arranged⟩
        rcases settled.validate_eq_error_iff.mp refused with
          ⟨_, _, _, split, sound, reason, rfl, fault⟩ |
          ⟨sound, _, _, _, split, inside, shape, subplots, other, rfl⟩
        · exact .series settled split sound fault
        -- Only a grid has an outside, so the layout is the one that the settings ask for.
        · refine .outside settled sound subplots split ?_ other
          intro one member
          exact contains_arrangement.mp (inside one member) shape subplots
  · intro fault
    cases fault with
    | conflict subplots twin =>
        exact validate_of_error (arranged_eq_error_iff.mpr (.inl ⟨subplots, twin, rfl⟩))
    | noCell subplots single empty =>
        exact validate_of_error
          (arranged_eq_error_iff.mpr (.inr ⟨_, subplots, single, empty, rfl⟩))
    | series settled split sound fault =>
        exact settled.validate_eq_error_iff.mpr
          (.inl ⟨_, _, _, split, sound, _, rfl, fault⟩)
    | @outside shape before after bad settled sound subplots split inside other =>
        refine settled.validate_eq_error_iff.mpr
          (.inr ⟨sound, before, bad, after, split, ?_, shape, subplots, other, rfl⟩)
        intro one member
        refine contains_arrangement.mpr fun asked same => ?_
        obtain rfl : shape = asked := Option.some.inj (subplots.symm.trans same)
        exact inside one member

/-- Whether a figure is acceptable depends on which series it has, and not on their order. -/
theorem acceptable_of_perm {other : Figure} (subplots : other.subplots = figure.subplots)
    (twin : other.twin.isSome = figure.twin.isSome) (style : other.style = figure.style)
    (primary : other.series.Perm figure.series)
    (second : other.twinSeries.Perm figure.twinSeries) (acceptable : figure.Acceptable) :
    other.Acceptable := by
  obtain ⟨⟨exclusive, addressable⟩, inside, sound⟩ := acceptable
  refine ⟨⟨?_, ?_⟩, ?_, ?_⟩
  · rw [subplots, twin]
    exact exclusive
  · rw [subplots]
    exact addressable
  · rw [subplots]
    exact fun shape asked series member => inside shape asked series (primary.subset member)
  · rw [style]
    exact fun series member => sound series ((primary.append second).subset member)

/-- A figure is valid when its layout can be arranged, all its series are sound and the cells of the
primary ones are in the grid; then any other order of its series is valid, too. Of a figure that is
not valid the first fault is reported: that of the layout before those of the series, primary before
twin, and these before a cell outside the grid. -/
theorem validate_reports_first_fault (figure : Figure) :
    ((∃ layout, figure.validate = .ok layout) ↔ figure.Acceptable) ∧
    (∀ error, figure.validate = .error error ↔ figure.FirstFault error) ∧
    ∀ other : Figure, other.subplots = figure.subplots → other.twin.isSome = figure.twin.isSome →
      other.style = figure.style → other.series.Perm figure.series →
      other.twinSeries.Perm figure.twinSeries →
      ((∃ layout, other.validate = .ok layout) ↔ ∃ layout, figure.validate = .ok layout) := by
  refine ⟨validate_succeeds_iff, fun _ => validate_fails_iff, ?_⟩
  intro other subplots twin style primary second
  rw [validate_succeeds_iff, validate_succeeds_iff]
  exact ⟨acceptable_of_perm subplots.symm twin.symm style.symm primary.symm second.symm,
    acceptable_of_perm subplots twin style primary second⟩

end Figure

end FigureScript
