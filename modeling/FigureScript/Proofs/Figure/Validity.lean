import FigureScript.Figure.Validity
import FigureScript.Proofs.Fallible
import FigureScript.Proofs.Series.Drawing

namespace FigureScript

/-! # Valid figures

`Figure.Valid` names what a figure has when it passes validation. Behind validation the choice of
axes cannot fail either: it is the total function `Layout.primaryAxes`.
-/

namespace Grid

/-- The expression for a cell, whether the grid has that cell or not. -/
def selector (grid : Grid) (cell : Cell) : Expr :=
  if 1 < grid.rows ∧ 1 < grid.columns then
    .index axes [.natural cell.row.toNat, .natural cell.column.toNat]
  else if 1 < grid.columns then .index axes [.natural cell.column.toNat]
  else if 1 < grid.rows then .index axes [.natural cell.row.toNat]
  else axes

/-- A cell is an entry of the grid value, or the whole value where that has no dimension left. -/
theorem selector_cases (grid : Grid) (cell : Cell) :
    (∃ positions : List Nat, grid.selector cell = .index axes (positions.map Expr.natural)) ∨
      grid.selector cell = axes := by
  unfold selector
  split
  · exact .inl ⟨[_, _], rfl⟩
  · split
    · exact .inl ⟨[_], rfl⟩
    · split
      · exact .inl ⟨[_], rfl⟩
      · exact .inr rfl

theorem cellExpr_of_contains {grid : Grid} {cell : Cell} (inside : grid.contains cell) :
    grid.cellExpr cell = .ok (grid.selector cell) := by
  simp only [cellExpr, if_pos inside, selector]
  split
  · rfl
  · split
    · rfl
    · split <;> rfl

theorem cellExpr_of_not_contains {grid : Grid} {cell : Cell} (outside : ¬ grid.contains cell) :
    grid.cellExpr cell = .error (grid.outside cell) := by
  simp only [cellExpr, if_neg outside]

end Grid

namespace Layout

/-- Membership of a cell. Without a grid it does not matter. -/
def contains : Layout → Cell → Prop
  | grid shape, cell => shape.contains cell
  | single, _ | twin, _ => True

/-- The axes of a primary series, whether the layout has its cell or not. -/
def primaryAxes : Layout → Cell → Axes
  | grid shape, cell => .cell (shape.selector cell)
  | single, _ | twin, _ => .primary

theorem primaryAxes_of_plain {layout : Layout} (plain : layout.isGrid = false) (cell : Cell) :
    layout.primaryAxes cell = .primary := by
  cases layout with
  | single => rfl
  | twin => rfl
  | grid shape => contradiction

theorem axesAt_of_contains {layout : Layout} {cell : Cell} (inside : layout.contains cell) :
    layout.axesAt cell = .ok (layout.primaryAxes cell) := by
  cases layout with
  | single => rfl
  | twin => rfl
  | grid shape => simp only [axesAt, Grid.cellExpr_of_contains inside, primaryAxes]

theorem contains_of_axesAt {layout : Layout} {cell : Cell} {axes : Axes}
    (found : layout.axesAt cell = .ok axes) : layout.contains cell := by
  cases layout with
  | single => trivial
  | twin => trivial
  | grid shape =>
      by_cases inside : shape.contains cell
      · exact inside
      · simp [axesAt, Grid.cellExpr_of_not_contains inside] at found

theorem ofSettings_cases {subplots : Option Grid} {hasTwin : Bool} {layout : Layout}
    (arranged : ofSettings subplots hasTwin = .ok layout) :
    (layout = single ∧ subplots = none ∧ hasTwin = false) ∨
      (layout = twin ∧ subplots = none ∧ hasTwin = true) ∨
      ∃ shape, layout = grid shape ∧ subplots = some shape ∧ hasTwin = false := by
  cases subplots with
  | none =>
      cases hasTwin with
      | false => cases arranged; exact .inl ⟨rfl, rfl, rfl⟩
      | true => cases arranged; exact .inr (.inl ⟨rfl, rfl, rfl⟩)
  | some shape =>
      cases hasTwin with
      | true => contradiction
      | false =>
          cases checked : shape.check with
          | error address => simp [ofSettings, checked] at arranged
          | ok =>
              simp only [ofSettings, checked, Except.ok.injEq] at arranged
              exact .inr (.inr ⟨shape, arranged.symm, rfl, rfl⟩)

end Layout

namespace Figure

variable {figure : Figure} {layout : Layout}

theorem checkSeries_eq_ok_iff {style : Style} {series : Series} :
    checkSeries style series = .ok () ↔
      series.check = .ok () ∧ (series.usesPalette = true → style.styling = true) := by
  unfold checkSeries
  cases checked : series.check with
  | error error => simp
  | ok => cases series.usesPalette <;> cases style.styling <;> simp

/-- What validation establishes about a figure and the layout that it returns. -/
structure Valid (figure : Figure) (layout : Layout) : Prop where
  arranged : Layout.ofSettings figure.subplots figure.twin.isSome = .ok layout
  checked : ∀ series ∈ figure.allSeries, series.check = .ok ()
  styled : ∀ series ∈ figure.allSeries, series.usesPalette = true → figure.style.styling = true
  inside : ∀ series ∈ figure.series, layout.contains series.cell

theorem Valid.layout_cases (valid : figure.Valid layout) :
    (layout = .single ∧ figure.subplots = none ∧ figure.twin = none) ∨
      (layout = .twin ∧ figure.subplots = none ∧ ∃ twin, figure.twin = some twin) ∨
      ∃ shape, layout = .grid shape ∧ figure.subplots = some shape ∧ figure.twin = none := by
  rcases Layout.ofSettings_cases valid.arranged with
    ⟨same, plain, absent⟩ | ⟨same, plain, present⟩ | ⟨shape, same, subplots, absent⟩
  · exact .inl ⟨same, plain, by simpa using absent⟩
  · exact .inr (.inl ⟨same, plain, Option.isSome_iff_exists.mp present⟩)
  · exact .inr (.inr ⟨shape, same, subplots, by simpa using absent⟩)

theorem Valid.layout_eq_twin {twin : TwinAxis} (valid : figure.Valid layout)
    (present : figure.twin = some twin) : layout = .twin := by
  rcases valid.layout_cases with ⟨_, _, absent⟩ | ⟨same, _⟩ | ⟨_, _, _, absent⟩
  · rw [present] at absent
    contradiction
  · exact same
  · rw [present] at absent
    contradiction

theorem Valid.layout_eq_grid {shape : Grid} (valid : figure.Valid layout)
    (subplots : figure.subplots = some shape) : layout = .grid shape := by
  rcases valid.layout_cases with ⟨_, plain, _⟩ | ⟨_, plain, _⟩ | ⟨other, same, settings, _⟩
  · rw [subplots] at plain
    contradiction
  · rw [subplots] at plain
    contradiction
  · rw [subplots, Option.some_inj] at settings
    rw [same, settings]

theorem Valid.isGrid_eq_false (valid : figure.Valid layout) (plain : figure.subplots = none) :
    layout.isGrid = false := by
  rcases valid.layout_cases with ⟨rfl, _⟩ | ⟨rfl, _⟩ | ⟨shape, _, asked, _⟩
  · rfl
  · rfl
  · rw [plain] at asked
    contradiction

theorem Valid.layout_eq_twin_of_mem {series : Series} (valid : figure.Valid layout)
    (member : series ∈ figure.twinSeries) : layout = .twin := by
  cases present : figure.twin with
  | none => simp [twinSeries, present] at member
  | some twin => exact valid.layout_eq_twin present

/-- A figure with subplots has primary series only. -/
theorem Valid.twinSeries_of_grid (valid : figure.Valid layout) (isGrid : layout.isGrid = true) :
    figure.twinSeries = [] := by
  rcases valid.layout_cases with ⟨rfl, _⟩ | ⟨rfl, _⟩ | ⟨_, rfl, _, absent⟩
  · contradiction
  · contradiction
  · simp only [twinSeries, absent]

theorem Valid.allSeries_of_grid (valid : figure.Valid layout) (isGrid : layout.isGrid = true) :
    figure.allSeries = figure.series := by
  rw [allSeries, valid.twinSeries_of_grid isGrid, List.append_nil]

/-- The part of validation that looks up the cell of a series. -/
def locate (layout : Layout) (series : Series) : Except FigureError Unit :=
  (layout.axesAt series.cell).map fun _ => ()

theorem locate_eq_ok_iff {series : Series} :
    locate layout series = .ok () ↔ layout.contains series.cell := by
  unfold locate
  constructor
  · intro located
    cases found : layout.axesAt series.cell with
    | error error => simp [found, Except.map] at located
    | ok axes => exact Layout.contains_of_axesAt found
  · intro inside
    rw [Layout.axesAt_of_contains inside]
    rfl

theorem validate_of_error {error : FigureError}
    (refused : Layout.ofSettings figure.subplots figure.twin.isSome = .error error) :
    figure.validate = .error error := by
  simp only [validate, refused, bind, Except.bind]

/-- Validation as two passes over series, once the layout is settled. -/
theorem validate_of_arranged
    (arranged : Layout.ofSettings figure.subplots figure.twin.isSome = .ok layout) :
    figure.validate =
      (figure.allSeries.forM (checkSeries figure.style) >>= fun _ =>
        figure.series.forM (locate layout) >>= fun _ => .ok layout) := by
  have lookup : (fun series : Series => do let _ ← layout.axesAt series.cell; pure ()) =
      locate layout := by
    funext series
    cases found : layout.axesAt series.cell with
    | error error => simp only [locate, found, bind, Except.bind, Except.map]
    | ok axes => simp only [locate, found, bind, Except.bind, Except.map, pure, Except.pure]
  rw [← lookup]
  unfold validate
  rw [arranged]
  rfl

theorem validate_eq_ok_iff : figure.validate = .ok layout ↔ figure.Valid layout := by
  cases arranged : Layout.ofSettings figure.subplots figure.twin.isSome with
  | error error =>
      rw [validate_of_error arranged]
      constructor
      · intro validated
        contradiction
      · intro valid
        rw [valid.arranged] at arranged
        contradiction
  | ok settled =>
      rw [validate_of_arranged arranged, Fallible.then_eq_ok_iff, Fallible.then_eq_ok_iff,
        Fallible.forM_eq_ok_iff, Fallible.forM_eq_ok_iff]
      simp only [checkSeries_eq_ok_iff, locate_eq_ok_iff]
      constructor
      · rintro ⟨series, inside, same⟩
        cases same
        exact ⟨arranged, fun one member => (series one member).1,
          fun one member => (series one member).2, inside⟩
      · intro valid
        have same : settled = layout := by
          have expected := valid.arranged
          rw [arranged] at expected
          exact Except.ok.inj expected
        subst same
        exact ⟨fun one member => ⟨valid.checked one member, valid.styled one member⟩,
          valid.inside, rfl⟩

end Figure
end FigureScript
