import FigureScript.Proofs.Figure.Vocabulary
import FigureScript.Proofs.Series.Calls

namespace FigureScript

/-! # Every series on its own axes

The draw calls of a script are those of its series, in drawing order. In a grid all of them go
through one variable, which every step binds to the cell of its series; the first step in a cell also
gives the cell its title.
-/

namespace Statement

def value? : Statement → Option Expr
  | .assign _ value => some value
  | .nested inner => inner.value?
  | _ => none

/-- The value that a statement assigns to a name. -/
def valueFor (name : String) (statement : Statement) : Option Expr :=
  if name ∈ statement.binds then statement.value? else none

theorem valueFor_of_not_mem {name : String} {statement : Statement}
    (unbound : name ∉ statement.binds) : statement.valueFor name = none :=
  if_neg unbound

end Statement

/-- The value of the last assignment to a name. -/
def lastValue (name : String) (statements : List Statement) : Option Expr :=
  (statements.filterMap (Statement.valueFor name)).getLast?

section

variable {name : String} {front back : List Statement} {value : Expr}

/-- What was assigned before does not matter behind another assignment. -/
theorem lastValue_append (assigned : lastValue name back = some value) :
    lastValue name (front ++ back) = some value := by
  unfold lastValue at *
  rw [List.filterMap_append, List.getLast?_append, assigned, Option.some_or]

theorem lastValue_assign (kept : ∀ statement ∈ back, statement.valueFor name = none)
    (plain : name ∉ Lexer.keywords) :
    lastValue name (.assign [name] value :: back) = some value := by
  have others : back.filterMap (Statement.valueFor name) = [] :=
    List.filterMap_eq_nil_iff.mpr kept
  simp [lastValue, Statement.valueFor, Statement.value?, plain, others]

end

/-- The statements that draw a series never assign the variable of the axes. -/
theorem Series.Fragment.valueFor_ax {axes : Axes} {series : Series} {statements : List Statement}
    (drawn : Fragment axes series statements) {statement : Statement}
    (member : statement ∈ statements) : statement.valueFor "ax" = none := by
  refine Statement.valueFor_of_not_mem fun bound => ?_
  have own : "ax" ∈ series.locals := drawn.binds_eq ▸ List.mem_flatMap.mpr ⟨_, member, bound⟩
  exact absurd (Series.locals_subset own) (by decide)

namespace Figure

variable {figure : Figure} {layout : Layout}

/-! ## Draw calls -/

theorem expr_primaryAxes (layout : Layout) (cell : Cell) :
    (layout.primaryAxes cell).expr = .name "ax" := by
  cases layout <;> rfl

theorem drawCalls_step (valid : figure.Valid layout) {step : Step}
    (member : step ∈ figure.steps layout) :
    step.statements.flatMap Statement.drawCalls = step.series.drawCalls step.axes.expr := by
  have drawn := Series.Fragment.of_check (valid.checked _ (series_mem_of_step member)) step.axes
  rw [Step.statements, List.flatMap_append, (confined_setup member).drawCalls_eq_nil (by decide),
    List.nil_append]
  exact drawn.drawCalls_eq

/-- What is read off every step from its series and the variable of its axes. -/
theorem flatMap_steps {α : Type} (part : Expr → Series → List α) :
    (figure.steps layout).flatMap (fun step => part step.axes.expr step.series) =
      figure.series.flatMap (part (.name "ax")) ++
        figure.twinSeries.flatMap (part (.name "ax2")) := by
  have primary : ∀ (configured : List Cell) (series : List Series),
      (figure.primarySteps layout configured series).flatMap
          (fun step => part step.axes.expr step.series) =
        series.flatMap (part (.name "ax")) := by
    intro configured series
    induction series generalizing configured with
    | nil => rfl
    | cons one rest ih =>
        simp only [primarySteps, List.flatMap_cons, ih, expr_primaryAxes]
  rw [steps, List.flatMap_append, primary, twinSteps, List.flatMap_map]
  rfl

theorem drawCalls_steps (valid : figure.Valid layout) :
    ((figure.steps layout).flatMap Step.statements).flatMap Statement.drawCalls =
      figure.series.flatMap (Series.drawCalls (.name "ax")) ++
        figure.twinSeries.flatMap (Series.drawCalls (.name "ax2")) := by
  have each : (figure.steps layout).flatMap
        (fun step => step.statements.flatMap Statement.drawCalls) =
      (figure.steps layout).flatMap fun step => step.series.drawCalls step.axes.expr := by
    rw [List.flatMap_def, List.flatMap_def,
      List.map_congr_left fun step member => drawCalls_step valid member]
  rw [List.flatMap_assoc, each]
  exact flatMap_steps Series.drawCalls

theorem drawCalls_written (valid : figure.Valid layout) :
    (figure.written layout).flatMap Statement.drawCalls =
      figure.series.flatMap (Series.drawCalls (.name "ax")) ++
        figure.twinSeries.flatMap (Series.drawCalls (.name "ax2")) := by
  simp only [written, List.flatMap_append, confined_preamble.drawCalls_eq_nil (by decide),
    confined_axesCreation.drawCalls_eq_nil (by decide), confined_legendStatements.drawCalls_eq_nil (by decide),
    confined_configuration.drawCalls_eq_nil (by decide), confined_postamble.drawCalls_eq_nil (by decide),
    drawCalls_steps valid, List.nil_append, List.append_nil]

/-! ## Bindings -/

theorem value?_cellStatements (figure : Figure) (cell : Cell) :
    ∀ statement ∈ figure.cellStatements cell, statement.value? = none := by
  have title : ∀ statement ∈ figure.cellTitle cell, statement.value? = none := by
    unfold cellTitle
    split
    · split <;> simp [Statement.value?]
    · simp
  have ticks : ∀ statement ∈ figure.tickStatements .primary, statement.value? = none := by
    simp [tickStatements, Statement.value?]
  have limits : ∀ (method : String) (axis : Axis),
      ∀ statement ∈ limitStatement .primary method axis, statement.value? = none := by
    intro method axis
    unfold limitStatement
    split <;> simp [Statement.value?]
  simp only [cellStatements, limitStatements, List.mem_append, or_imp, forall_and]
  exact ⟨⟨title, ticks⟩, limits _ _, limits _ _⟩

/-! ## Titles of cells -/

/-- The title that a series gives to its cell: none where other series share the cell, or where the
series has no label of its own. -/
def ownTitle (figure : Figure) (series : Series) : List Statement :=
  if (figure.allSeries.filter fun other => other.cell = series.cell).length = 1 then
    (Given.text series.label).toList.map fun label =>
      .evaluate (.method (.name "ax") "set_title" [.quoted label])
  else []

/-- Without other occupants the series of a cell gives the title. -/
theorem cellTitle_eq {series : Series} (valid : figure.Valid layout) (isGrid : layout.isGrid = true)
    (member : series ∈ figure.series) :
    figure.cellTitle series.cell = figure.ownTitle series := by
  have here : series ∈ figure.occupants series.cell :=
    List.mem_filter.mpr ⟨member, by simp⟩
  rw [ownTitle, valid.allSeries_of_grid isGrid]
  change _ = if (figure.occupants series.cell).length = 1 then _ else _
  rcases occupants : figure.occupants series.cell with _ | ⟨only, _ | ⟨second, others⟩⟩
  · simp [occupants] at here
  · rw [occupants, List.mem_singleton] at here
    subst here
    cases given : Given.text series.label <;>
      simp [cellTitle, occupants, given, Axes.expr, Axes.variableName]
  · simp [cellTitle, occupants]

theorem filter_ownTitle (figure : Figure) (series : Series) :
    (figure.ownTitle series).filter (Statement.invokes "set_title") = figure.ownTitle series := by
  unfold ownTitle
  split
  · cases Given.text series.label <;> simp [Statement.invokes, Statement.calls]
  · rfl

theorem filter_cellStatements {series : Series} (valid : figure.Valid layout)
    (isGrid : layout.isGrid = true) (member : series ∈ figure.series) :
    (figure.cellStatements series.cell).filter (Statement.invokes "set_title") =
      figure.ownTitle series := by
  have ticks : Confined ["ax", "tick_params", "axis", "which", "labelsize"] figure.Quotes
      (figure.tickStatements .primary) := confined_tickStatements figure (by decide) (by decide)
  have limits : Confined ["ax", "set_xlim", "set_ylim"] figure.Quotes
      (figure.limitStatements .primary) :=
    Confined.append_iff.mpr
      ⟨confined_limitStatement figure "set_xlim" _ (by decide) (by decide),
        confined_limitStatement figure "set_ylim" _ (by decide) (by decide)⟩
  rw [cellStatements, List.filter_append, List.filter_append, ticks.filter_invokes "set_title" (by decide),
    limits.filter_invokes "set_title" (by decide), cellTitle_eq valid isGrid member, filter_ownTitle,
    List.append_nil, List.append_nil]

/-- A cell that is visited again is shared with the series of the first visit. -/
theorem ownTitle_of_shared {earlier later : List Step} {step : Step}
    (drawn : figure.allSeries = (earlier ++ step :: later).map Step.series)
    (known : step.series.cell ∈ earlier.map fun one => one.series.cell) :
    figure.ownTitle step.series = [] := by
  obtain ⟨first, before, same⟩ := List.mem_map.mp known
  have shared : first.series ∈ (earlier.map Step.series).filter
      fun other => other.cell = step.series.cell :=
    List.mem_filter.mpr ⟨List.mem_map_of_mem before, by simp [same]⟩
  have some := List.length_pos_of_mem shared
  rw [ownTitle, drawn, List.map_append, List.filter_append, List.length_append, List.map_cons,
    List.filter_cons_of_pos (by simp), List.length_cons, if_neg (by omega)]

/-! ## Setups -/

/-- The statements before the fragment of a step in a grid: the binding of its cell, then settings
that have the title of the cell where it has one, and assign nothing. -/
theorem setup_of_grid {shape : Grid} (valid : figure.Valid (.grid shape))
    {earlier later : List Step} {step : Step}
    (split : figure.steps (.grid shape) = earlier ++ step :: later) :
    ∃ settings, step.setup = .assign ["ax"] (shape.selector step.series.cell) :: settings ∧
      settings.filter (Statement.invokes "set_title") = figure.ownTitle step.series ∧
      ∀ statement ∈ settings, statement.value? = none := by
  have drawn : figure.allSeries = (earlier ++ step :: later).map Step.series := by
    rw [← split, series_steps]
  have member : step.series ∈ figure.series := by
    rw [← valid.allSeries_of_grid rfl, drawn]
    simp
  have primary := split
  rw [steps, twinSteps, valid.twinSeries_of_grid rfl, List.map_nil, List.append_nil] at primary
  obtain ⟨_, setup⟩ := setup_of_split primary
  rw [bindCell_of_grid, List.append_nil] at setup
  refine ⟨_, setup, ?_⟩
  split
  · rename_i known
    rw [ownTitle_of_shared drawn (List.mem_reverse.mp known)]
    exact ⟨rfl, by simp⟩
  · exact ⟨filter_cellStatements valid rfl member, value?_cellStatements figure _⟩

theorem lastValue_setup {shape : Grid} (valid : figure.Valid (.grid shape))
    {earlier later : List Step} {step : Step}
    (split : figure.steps (.grid shape) = earlier ++ step :: later) :
    lastValue "ax" step.setup = some (shape.selector step.series.cell) := by
  obtain ⟨settings, setup, _, plain⟩ := setup_of_grid valid split
  rw [setup]
  refine lastValue_assign (fun statement member => ?_) (by decide)
  rw [Statement.valueFor, plain statement member, ite_self]

/-- In a grid the script has these titles and no others. -/
theorem titles_written {shape : Grid} (valid : figure.Valid (.grid shape)) :
    (figure.written (.grid shape)).filter (Statement.invokes "set_title") =
      figure.series.flatMap figure.ownTitle := by
  have each : ∀ step ∈ figure.steps (.grid shape),
      step.statements.filter (Statement.invokes "set_title") = figure.ownTitle step.series := by
    intro step member
    obtain ⟨earlier, later, split⟩ := List.append_of_mem member
    obtain ⟨settings, setup, titles, _⟩ := setup_of_grid valid split
    have binding : Confined ["ax", "axs"] figure.Quotes
        [.assign ["ax"] (shape.selector step.series.cell)] :=
      Confined.cons_iff.mpr ⟨⟨by decide, uses_selector _ _ (by decide)⟩, .nil⟩
    rw [Step.statements, setup, ← List.singleton_append, List.filter_append, List.filter_append,
      binding.filter_invokes "set_title" (by decide), titles,
      (confined_fragment valid member).filter_invokes "set_title" (by decide), List.nil_append, List.append_nil]
  have drawing : ((figure.steps (.grid shape)).flatMap Step.statements).filter
      (Statement.invokes "set_title") = figure.series.flatMap figure.ownTitle := by
    rw [List.filter_flatMap, List.flatMap_def, List.map_congr_left each,
      ← valid.allSeries_of_grid rfl, ← series_steps, List.flatMap_map, List.flatMap_def]
  have settings : (figure.configuration (.grid shape)).filter (Statement.invokes "set_title") =
      [] := confined_gridTexts.filter_invokes "set_title" (by decide)
  simp only [written, List.filter_append, confined_preamble.filter_invokes "set_title" (by decide),
    confined_axesCreation.filter_invokes "set_title" (by decide),
    confined_legendStatements.filter_invokes "set_title" (by decide),
    confined_postamble.filter_invokes "set_title" (by decide), settings, drawing, List.nil_append,
    List.append_nil]

theorem variables_steps :
    ((figure.steps layout).map fun step => (step.series, step.axes.variableName)) =
      figure.series.map (fun series => (series, "ax")) ++
        figure.twinSeries.map fun series => (series, "ax2") := by
  have primary : ∀ (configured : List Cell) (series : List Series),
      ((figure.primarySteps layout configured series).map
        fun step => (step.series, step.axes.variableName)) =
      series.map fun one => (one, "ax") := by
    intro configured series
    induction series generalizing configured with
    | nil => rfl
    | cons one rest ih =>
        have own : (layout.primaryAxes one.cell).variableName = "ax" := by cases layout <;> rfl
        simp only [primarySteps, List.map_cons, ih, own]
  rw [steps, List.map_append, primary, twinSteps, List.map_map]
  rfl

/-- Whatever the layout, a script draws its series once, in order, the primary ones through `ax` and
the twin ones through `ax2`. In a grid `ax` is, wherever a fragment starts, the cell of its series,
and stays so to the end of the fragment; a series that has its cell for itself and has a label gives
the title of the cell, behind the binding of the cell and before the fragment. -/
theorem compile_draws_on_own_axes {script : String}
    (compiled : figure.compile.result = .ok script) :
    ∃ layout statements, figure.Emits script layout statements ∧
      statements.flatMap Statement.drawCalls =
        figure.series.flatMap (Series.drawCalls (.name "ax")) ++
          figure.twinSeries.flatMap (Series.drawCalls (.name "ax2")) ∧
      ∃ before steps after, figure.Draws layout steps ∧
        statements = before ++ steps.flatMap Step.statements ++ after ∧
        (steps.map fun step => (step.series, step.axes.variableName)) =
          figure.series.map (fun series => (series, "ax")) ++
            figure.twinSeries.map (fun series => (series, "ax2")) ∧
        (∀ step ∈ steps,
          step.fragment.flatMap Statement.drawCalls =
            step.series.drawCalls (.name step.axes.variableName) ∧
          ∀ statement ∈ step.fragment, ∀ name ∈ ["ax", "ax2", "axs"], name ∈ statement.reads →
            name = step.axes.variableName) ∧
        ∀ shape, layout = .grid shape →
          statements.filter (Statement.invokes "set_title") =
            figure.series.flatMap figure.ownTitle ∧
          ∀ earlier step later, steps = earlier ++ step :: later →
            ∃ expression settings, shape.cellExpr step.series.cell = .ok expression ∧
              step.setup = .assign ["ax"] expression :: settings ∧
              settings.filter (Statement.invokes "set_title") = figure.ownTitle step.series ∧
              lastValue "ax" (before ++ earlier.flatMap Step.statements ++ step.setup) =
                some expression ∧
              ∀ statement ∈ step.fragment, statement.valueFor "ax" = none := by
  obtain ⟨layout, valid, emits⟩ := emits_written compiled
  refine ⟨layout, _, emits, drawCalls_written valid, figure.preamble ++ figure.axesCreation layout,
    figure.steps layout, figure.legendStatements layout ++ figure.configuration layout ++
      figure.postamble, draws_steps valid, ?split, variables_steps, ?through, ?grid⟩
  case split => simp only [written, List.append_assoc]
  case through =>
    intro step member
    have drawn := Series.Fragment.of_check (valid.checked _ (series_mem_of_step member)) step.axes
    exact ⟨drawn.drawCalls_eq, fun statement inside name => drawn.reads_axes inside⟩
  case grid =>
    rintro shape rfl
    refine ⟨titles_written valid, fun earlier step later split => ?_⟩
    have member : step ∈ figure.steps (.grid shape) := by simp [split]
    have drawn := Series.Fragment.of_check (valid.checked _ (series_mem_of_step member)) step.axes
    have primary : step.series ∈ figure.series :=
      valid.allSeries_of_grid rfl ▸ series_mem_of_step member
    obtain ⟨settings, setup, titles, _⟩ := setup_of_grid valid split
    -- The fragment assigns no axes, so the binding in front of the settings lasts to its end.
    exact ⟨shape.selector step.series.cell, settings,
      Grid.cellExpr_of_contains (valid.inside _ primary), setup, titles,
      lastValue_append (lastValue_setup valid split),
      fun statement within => drawn.valueFor_ax within⟩

/-- Two cells, the first one visited twice. -/
def sharedCell : Figure where
  subplots := some { rows := 1, columns := 2 }
  series :=
    [.line { x := some [1.0], label := some "a" },
      .scatter { x := some [2.0], label := some "b", cell := { column := 1 } },
      .line { y := some [3.0] }]

theorem sharedCell_draws_on_own_axes :
    ∃ script, sharedCell.compile.result = .ok script ∧
      ∃ layout statements, sharedCell.Emits script layout statements ∧
        statements.flatMap Statement.drawCalls =
          [(.name "ax", "plot"), (.name "ax", "scatter"), (.name "ax", "plot")] ∧
        statements.filter (Statement.invokes "set_title") =
          [.evaluate (.method (.name "ax") "set_title" [.quoted "b"])] := by
  have validated : sharedCell.validate = .ok (.grid { rows := 1, columns := 2 }) := rfl
  have compiled : sharedCell.compile.result = .ok
      (Script.ofStatements (sharedCell.written (.grid { rows := 1, columns := 2 }))).render :=
    compile_eq_ok_iff.mpr ⟨_, validate_eq_ok_iff.mp validated, rfl⟩
  obtain ⟨layout, statements, emits, draws, _, _, _, _, _, _, _, titles⟩ :=
    compile_draws_on_own_axes compiled
  have same : layout = .grid { rows := 1, columns := 2 } := by
    have settled := emits.validated
    rw [validated] at settled
    exact (Except.ok.inj settled).symm
  exact ⟨_, compiled, layout, statements, emits, draws, (titles _ same).1⟩

end Figure

end FigureScript
