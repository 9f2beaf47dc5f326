import FigureScript.Figure.Drawing
import FigureScript.Proofs.Figure.Validity

namespace FigureScript

/-! # Drawing step by step

The drawing phase of a valid figure is a list of steps, one for each series. A step prepares the axes
of its series and then draws it.
-/

/-- A series on its axes, with the statements that prepare them. -/
structure Step where
  series : Series
  axes : Axes
  setup : List Statement

namespace Step

def fragment (step : Step) : List Statement := step.series.drawn step.axes

def statements (step : Step) : List Statement := step.setup ++ step.fragment

end Step

namespace Figure

variable {figure : Figure} {layout : Layout}

/-- The steps of primary series. `configured` holds the cells of those drawn before. -/
def primarySteps (figure : Figure) (layout : Layout) (configured : List Cell) :
    List Series → List Step
  | [] => []
  | series :: rest =>
    let axes := layout.primaryAxes series.cell
    ⟨series, axes, figure.bindCell configured axes series.cell⟩ ::
      figure.primarySteps layout (series.cell :: configured) rest

/-- The twin axes need no preparation. -/
def twinSteps (figure : Figure) : List Step :=
  figure.twinSeries.map fun series => ⟨series, .twin, []⟩

def steps (figure : Figure) (layout : Layout) : List Step :=
  figure.primarySteps layout [] figure.series ++ figure.twinSteps

theorem fragment_of_check {series : Series} (checked : series.check = .ok ()) (axes : Axes) :
    fragment series axes = .ok (series.drawn axes) := by
  simp only [fragment, Series.statements_of_check checked]

theorem drawPrimary_eq (figure : Figure) (configured : List Cell) {series : List Series}
    (checked : ∀ one ∈ series, one.check = .ok ())
    (inside : ∀ one ∈ series, layout.contains one.cell) :
    figure.drawPrimary layout configured series =
      .ok ((figure.primarySteps layout configured series).flatMap Step.statements) := by
  induction series generalizing configured with
  | nil => rfl
  | cons one rest ih =>
      have found := Layout.axesAt_of_contains (inside one (by simp))
      have drawn := fragment_of_check (checked one (by simp)) (layout.primaryAxes one.cell)
      have others := ih (one.cell :: configured)
        (fun other member => checked other (by simp [member]))
        (fun other member => inside other (by simp [member]))
      simp only [drawPrimary, found, drawn, others, bind, Except.bind, pure, Except.pure,
        primarySteps, List.flatMap_cons, Step.statements, Step.fragment]

theorem mapM_fragment_of_check {series : List Series}
    (checked : ∀ one ∈ series, one.check = .ok ()) (axes : Axes) :
    series.mapM (fun one => fragment one axes) = .ok (series.map fun one => one.drawn axes) :=
  Fallible.mapM_eq_ok_map fun one member => fragment_of_check (checked one member) axes

theorem drawTwin_eq {series : List Series} (checked : ∀ one ∈ series, one.check = .ok ()) :
    drawTwin .twin series = .ok (series.flatMap fun one => one.drawn .twin) := by
  simp only [drawTwin, Layout.twinAxes, bind, Except.bind, mapM_fragment_of_check checked, pure,
    Except.pure, List.flatMap_def]

theorem flatMap_twinSteps :
    figure.twinSteps.flatMap Step.statements =
      figure.twinSeries.flatMap fun series => series.drawn .twin := by
  simp only [twinSteps, List.flatMap_map, Step.statements, Step.fragment, List.nil_append]

theorem drawing_eq (valid : figure.Valid layout) :
    figure.drawing layout = .ok ((figure.steps layout).flatMap Step.statements) := by
  have primary := drawPrimary_eq figure []
    (fun series member => valid.checked series (List.mem_append_left _ member)) valid.inside
  cases twin : figure.twin with
  | none =>
      have alone : figure.twinSeries = [] := by simp only [twinSeries, twin]
      simp only [drawing, primary, twin, bind, Except.bind, pure, Except.pure, steps,
        List.flatMap_append, flatMap_twinSteps, alone, List.flatMap_nil]
  | some axis =>
      have series : figure.twinSeries = axis.series := by simp only [twinSeries, twin]
      have second := drawTwin_eq fun one member =>
        valid.checked one (List.mem_append_right _ (series ▸ member))
      rw [← valid.layout_eq_twin twin] at second
      simp only [drawing, primary, twin, second, bind, Except.bind, pure, Except.pure, steps,
        List.flatMap_append, flatMap_twinSteps, series]

/-- Without a grid nothing is bound before a series is drawn. -/
theorem bindCell_of_plain (plain : layout.isGrid = false) (configured : List Cell) (cell : Cell) :
    figure.bindCell configured (layout.primaryAxes cell) cell = [] := by
  rw [Layout.primaryAxes_of_plain plain]
  rfl

/-- Without a grid the primary series are drawn one after the other, and nothing else is done. -/
theorem flatMap_primarySteps_of_plain (plain : layout.isGrid = false) (configured : List Cell)
    (series : List Series) :
    (figure.primarySteps layout configured series).flatMap Step.statements =
      series.flatMap fun one => one.drawn .primary := by
  induction series generalizing configured with
  | nil => rfl
  | cons one rest ih =>
      have unbound : figure.bindCell configured .primary one.cell = [] := rfl
      simp only [primarySteps, List.flatMap_cons, ih, Step.statements, Step.fragment,
        Layout.primaryAxes_of_plain plain, unbound, List.nil_append]

theorem flatMap_steps_of_plain (plain : layout.isGrid = false) :
    (figure.steps layout).flatMap Step.statements =
      (figure.series.flatMap fun one => one.drawn .primary) ++
        figure.twinSeries.flatMap fun one => one.drawn .twin := by
  rw [steps, List.flatMap_append, flatMap_primarySteps_of_plain plain, flatMap_twinSteps]

theorem bindCell_of_grid (shape : Grid) (configured : List Cell) (cell : Cell) :
    figure.bindCell configured ((Layout.grid shape).primaryAxes cell) cell =
      .assign ["ax"] (shape.selector cell) ::
        (if cell ∈ configured then [] else figure.cellStatements cell) := rfl

/-- The axes of a primary step, and its setup in terms of the cells drawn before. -/
theorem setup_of_split {configured : List Cell} {series : List Series} {before after : List Step}
    {step : Step}
    (split : figure.primarySteps layout configured series = before ++ step :: after) :
    step.axes = layout.primaryAxes step.series.cell ∧
      step.setup = figure.bindCell
        ((before.map fun earlier => earlier.series.cell).reverse ++ configured)
        (layout.primaryAxes step.series.cell) step.series.cell := by
  induction before generalizing configured series with
  | nil =>
      cases series with
      | nil => contradiction
      | cons one rest =>
          obtain ⟨rfl, _⟩ := List.cons.inj split
          exact ⟨rfl, rfl⟩
  | cons first others ih =>
      cases series with
      | nil => contradiction
      | cons one rest =>
          obtain ⟨rfl, behind⟩ := List.cons.inj split
          simpa using ih behind

theorem setup_of_mem {configured : List Cell} {series : List Series} {step : Step}
    (member : step ∈ figure.primarySteps layout configured series) :
    step.axes = layout.primaryAxes step.series.cell ∧
      ∃ earlier, step.setup =
        figure.bindCell earlier (layout.primaryAxes step.series.cell) step.series.cell := by
  obtain ⟨before, after, split⟩ := List.append_of_mem member
  obtain ⟨axes, setup⟩ := setup_of_split split
  exact ⟨axes, _, setup⟩

theorem series_primarySteps {configured : List Cell} {series : List Series} :
    (figure.primarySteps layout configured series).map Step.series = series := by
  induction series generalizing configured with
  | nil => rfl
  | cons one rest ih => simp only [primarySteps, List.map_cons, ih]

theorem series_steps : (figure.steps layout).map Step.series = figure.allSeries := by
  simp [steps, series_primarySteps, twinSteps, allSeries, Function.comp_def]

/-- A step draws a primary series on the axes of its cell, or a twin series on the twin axes. -/
theorem step_cases {step : Step} (member : step ∈ figure.steps layout) :
    (step.series ∈ figure.series ∧ step.axes = layout.primaryAxes step.series.cell ∧
      ∃ earlier, step.setup =
        figure.bindCell earlier (layout.primaryAxes step.series.cell) step.series.cell) ∨
    (step.series ∈ figure.twinSeries ∧ step.axes = .twin ∧ step.setup = []) := by
  rcases List.mem_append.mp member with primary | twin
  · have drawn : step.series ∈ (figure.primarySteps layout [] figure.series).map Step.series :=
      List.mem_map_of_mem primary
    rw [series_primarySteps] at drawn
    exact .inl ⟨drawn, setup_of_mem primary⟩
  · obtain ⟨series, drawn, rfl⟩ := List.mem_map.mp twin
    exact .inr ⟨drawn, rfl, rfl⟩

theorem series_mem_of_step {step : Step} (member : step ∈ figure.steps layout) :
    step.series ∈ figure.allSeries := by
  rcases step_cases member with ⟨primary, _⟩ | ⟨twin, _⟩
  · exact List.mem_append_left _ primary
  · exact List.mem_append_right _ twin

end Figure

end FigureScript
