import FigureScript.Proofs.Figure.Isolation

namespace FigureScript

/-! # The settings of axes

Ticks and limits are set in two places: behind the legends for a figure without subplots, and in front
of the first series of every cell for one with subplots. Either way all axes in use are set once.
-/

namespace Statement

/-- The methods that set ticks and limits. -/
def settingMethods : List String := ["tick_params", "set_xlim", "set_ylim"]

def configures (statement : Statement) : Bool := settingMethods.any fun method =>
  statement.invokes method

theorem configures_assign {target : String} {value : Expr} (plain : value.calls = []) :
    (Statement.assign [target] value).configures = false := by
  simp [configures, invokes, calls, plain]

theorem configures_evaluate {axes method : String} {arguments : List Expr}
    (plain : arguments.flatMap Expr.calls = []) :
    (Statement.evaluate (.method (.name axes) method arguments)).configures = true ↔
      method ∈ settingMethods := by
  simp [configures, invokes, calls, plain]

end Statement

theorem Confined.filter_configures {names : List String} {quote : String → Prop}
    {statements : List Statement} (confined : Confined names quote statements)
    (absent : ∀ method ∈ Statement.settingMethods, method ∉ "" :: names) :
    statements.filter Statement.configures = [] := by
  rw [List.filter_eq_nil_iff]
  intro statement member
  simp only [Statement.configures, List.any_eq_true, not_exists, not_and, Bool.not_eq_true]
  exact fun method known => confined.invokes_eq_false (absent method known) member

namespace Figure

variable {figure : Figure} {layout : Layout} {shape : Grid} {cell : Cell}

/-! ## What is set -/

/-- One call for the major ticks and one for the minor ticks. -/
def tickCalls (figure : Figure) (axes : String) : List Statement :=
  ["major", "minor"].map fun which =>
    .evaluate (.method (.name axes) "tick_params"
      ([.named "axis" (.quoted "both"), .named "which" (.quoted which)] ++
        figure.tickLabelSize.toList.map fun size => .named "labelsize" (.number size)))

/-- One call for limits that are set, and none for limits that are not. -/
def limitCalls (axes method : String) (axis : Axis) : List Statement :=
  axis.limits.toList.map fun ends =>
    .evaluate (.method (.name axes) method [.numbers [ends.1, ends.2]])

/-- All settings of the axes that primary series are drawn on. -/
def axesCalls (figure : Figure) : List Statement :=
  figure.tickCalls "ax" ++ limitCalls "ax" "set_xlim" figure.xAxis ++
    limitCalls "ax" "set_ylim" figure.yAxis

theorem tickStatements_eq (figure : Figure) (axes : Axes) :
    figure.tickStatements axes = figure.tickCalls axes.variableName := by
  cases size : figure.tickLabelSize <;> simp [tickStatements, tickCalls, size] <;> rfl

theorem limitStatement_eq (axes : Axes) (method : String) (axis : Axis) :
    limitStatement axes method axis = limitCalls axes.variableName method axis := by
  cases limits : axis.limits with
  | none => simp [limitStatement, limitCalls, Axis.limitsExpr, limits]
  | some ends => simp [limitStatement, limitCalls, Axis.limitsExpr, limits, Axes.expr]

theorem limitStatements_primary (figure : Figure) :
    figure.limitStatements .primary =
      limitCalls "ax" "set_xlim" figure.xAxis ++ limitCalls "ax" "set_ylim" figure.yAxis := by
  rw [limitStatements, limitStatement_eq, limitStatement_eq]
  rfl

theorem filter_tickCalls (figure : Figure) (axes : String) :
    (figure.tickCalls axes).filter Statement.configures = figure.tickCalls axes := by
  rw [List.filter_eq_self]
  intro statement member
  obtain ⟨which, _, rfl⟩ := List.mem_map.mp member
  exact (Statement.configures_evaluate (by simp [List.flatMap_map])).mpr (by decide)

theorem filter_limitCalls {axes method : String} {axis : Axis}
    (known : method ∈ Statement.settingMethods) :
    (limitCalls axes method axis).filter Statement.configures = limitCalls axes method axis := by
  rw [List.filter_eq_self]
  intro statement member
  obtain ⟨ends, _, rfl⟩ := List.mem_map.mp member
  exact (Statement.configures_evaluate (by simp)).mpr known

theorem filter_textStatement {object method : String} {text : Option String}
    (other : method ∉ Statement.settingMethods) :
    (textStatement (.name object) method text).filter Statement.configures = [] := by
  cases text with
  | none => rfl
  | some value =>
      refine List.filter_eq_nil_iff.mpr fun statement member => ?_
      rw [List.mem_singleton.mp member, Statement.configures_evaluate rfl]
      exact other

theorem filter_axesCalls (figure : Figure) :
    figure.axesCalls.filter Statement.configures = figure.axesCalls := by
  rw [axesCalls, List.filter_append, List.filter_append, filter_tickCalls,
    filter_limitCalls (by decide), filter_limitCalls (by decide)]

/-! ## Figures without subplots -/

theorem filter_axesTexts_of_single (absent : figure.twin = none) :
    figure.axesTexts.filter Statement.configures = figure.axesCalls := by
  simp (disch := decide) only [axesTexts, absent, Axes.expr, List.filter_append,
    filter_textStatement, tickStatements_eq, filter_tickCalls, limitStatements_primary,
    filter_limitCalls]
  simp [axesCalls, Axes.variableName]

theorem filter_axesTexts_of_twin {twin : TwinAxis} (present : figure.twin = some twin) :
    figure.axesTexts.filter Statement.configures =
      figure.tickCalls "ax" ++ figure.tickCalls "ax2" ++
        limitCalls "ax" "set_xlim" figure.xAxis ++ limitCalls "ax" "set_ylim" figure.yAxis ++
        limitCalls "ax2" "set_ylim" twin.yAxis := by
  simp (disch := decide) only [axesTexts, present, Option.map_some, Option.isSome_some, if_true,
    Axes.expr, List.filter_append, filter_textStatement, tickStatements_eq, filter_tickCalls,
    limitStatements_primary, limitStatement_eq, filter_limitCalls]
  simp [Axes.variableName]

theorem filter_step (valid : figure.Valid layout) {step : Step}
    (member : step ∈ figure.steps layout) :
    step.statements.filter Statement.configures = step.setup.filter Statement.configures := by
  rw [Step.statements, List.filter_append,
    (confined_fragment valid member).filter_configures (by decide), List.append_nil]

theorem filter_written_of_plain (plain : layout.isGrid = false) (valid : figure.Valid layout) :
    (figure.written layout).filter Statement.configures =
      figure.axesTexts.filter Statement.configures := by
  have configuration : figure.configuration layout = figure.axesTexts := by
    rw [Figure.configuration, plain]
    rfl
  have drawing :
      ((figure.steps layout).flatMap Step.statements).filter Statement.configures = [] := by
    rw [List.filter_flatMap, List.flatMap_eq_nil_iff]
    intro step member
    rw [filter_step valid member]
    rcases step_cases member with ⟨_, _, earlier, setup⟩ | ⟨_, _, setup⟩
    · rw [setup, bindCell_of_plain plain]
      rfl
    · rw [setup]
      rfl
  simp only [written, List.filter_append, confined_preamble.filter_configures (by decide),
    confined_axesCreation.filter_configures (by decide), drawing,
    confined_legendStatements.filter_configures (by decide), configuration,
    confined_postamble.filter_configures (by decide), List.nil_append, List.append_nil]

/-! ## Figures with subplots -/

theorem cellStatements_eq (figure : Figure) (cell : Cell) :
    figure.cellStatements cell = figure.cellTitle cell ++ figure.axesCalls := by
  rw [cellStatements, tickStatements_eq, limitStatements_primary, axesCalls, List.append_assoc,
    List.append_assoc]
  rfl

theorem filter_binding (shape : Grid) (cell : Cell) (rest : List Statement) :
    (.assign ["ax"] (shape.selector cell) :: rest : List Statement).filter Statement.configures =
      rest.filter Statement.configures :=
  List.filter_cons_of_neg (by simp [Statement.configures_assign (calls_selector shape cell)])

theorem filter_configures_cellStatements (figure : Figure) (cell : Cell) :
    (figure.cellStatements cell).filter Statement.configures = figure.axesCalls := by
  rw [cellStatements_eq, List.filter_append, filter_axesCalls,
    (confined_cellTitle figure cell).filter_configures (by decide), List.nil_append]

/-- A step into a cell that is configured binds its axes, and does nothing else before it draws. -/
def revisit (shape : Grid) (cell : Cell) (series : Series) : Step :=
  ⟨series, (Layout.grid shape).primaryAxes cell, [.assign ["ax"] (shape.selector cell)]⟩

theorem primarySteps_of_configured {configured : List Cell} {series : List Series}
    (known : cell ∈ configured) (here : ∀ one ∈ series, one.cell = cell) :
    figure.primarySteps (.grid shape) configured series = series.map (revisit shape cell) := by
  induction series generalizing configured with
  | nil => rfl
  | cons one rest ih =>
      have own : one.cell = cell := here one (by simp)
      have others := ih (List.mem_cons_of_mem cell known)
        fun other member => here other (by simp [member])
      simp only [primarySteps, bindCell_of_grid, List.map_cons, own, others, if_pos known, revisit]

/-- The first series of a cell configures it, and the others find it configured. -/
theorem steps_only_of_occupants (valid : figure.Valid (.grid shape)) {first : Series}
    {others : List Series} (occupants : figure.occupants cell = first :: others) :
    (figure.only cell).steps (.grid shape) =
      ⟨first, (Layout.grid shape).primaryAxes cell,
        .assign ["ax"] (shape.selector cell) :: figure.cellStatements cell⟩ ::
      others.map (revisit shape cell) := by
  have series : (figure.only cell).series = first :: others := occupants
  have here : ∀ one ∈ first :: others, one.cell = cell := by
    intro one member
    rw [← occupants] at member
    simpa using (List.mem_filter.mp member).2
  have own := here first (by simp)
  rw [steps_of_grid (valid.only cell), series, primarySteps, bindCell_of_grid, own,
    if_neg List.not_mem_nil, cellStatements_only,
    primarySteps_of_configured (List.mem_singleton_self cell)
      fun one member => here one (by simp [member])]

theorem blocks_of_occupants (valid : figure.Valid (.grid shape)) (inside : shape.contains cell)
    {first : Series} {others : List Series} (occupants : figure.occupants cell = first :: others) :
    (axesBlocks ((figure.steps (.grid shape)).flatMap Step.statements)).filter
        (fun block => blockAxes block = some (shape.selector cell).text) =
      (.assign ["ax"] (shape.selector cell) :: figure.cellTitle cell ++ figure.axesCalls ++
        first.drawn (.cell (shape.selector cell))) ::
      others.map fun one => (revisit shape cell one).statements := by
  rw [blocks_of_cell valid inside, steps_only_of_occupants valid occupants, List.map_cons,
    List.map_map, Step.statements, cellStatements_eq]
  rfl

/-- All calls that set a cell come from its first step. -/
theorem filter_blocks_of_occupants (valid : figure.Valid (.grid shape))
    (inside : shape.contains cell) {first : Series} {others : List Series}
    (occupants : figure.occupants cell = first :: others) :
    ((axesBlocks ((figure.steps (.grid shape)).flatMap Step.statements)).filter
        fun block => blockAxes block = some (shape.selector cell).text).flatten.filter
          Statement.configures = figure.axesCalls := by
  have alone := steps_only_of_occupants valid occupants
  have setups : ((figure.only cell).steps (.grid shape)).flatMap
        (fun step => step.statements.filter Statement.configures) =
      ((figure.only cell).steps (.grid shape)).flatMap
        fun step => step.setup.filter Statement.configures := by
    rw [List.flatMap_def, List.flatMap_def,
      List.map_congr_left fun step member => filter_step (valid.only cell) member]
  have later : (others.map (revisit shape cell)).flatMap
      (fun step => step.setup.filter Statement.configures) = [] := by
    rw [List.flatMap_eq_nil_iff]
    intro step member
    obtain ⟨one, _, rfl⟩ := List.mem_map.mp member
    exact filter_binding shape cell []
  rw [flatten_blocks_of_cell valid inside, List.filter_flatMap, setups, alone, List.flatMap_cons,
    later, filter_binding, filter_configures_cellStatements, List.append_nil]

theorem blocks_of_unoccupied (valid : figure.Valid (.grid shape)) (inside : shape.contains cell)
    (unoccupied : figure.occupants cell = []) :
    (axesBlocks ((figure.steps (.grid shape)).flatMap Step.statements)).filter
      (fun block => blockAxes block = some (shape.selector cell).text) = [] := by
  have series : (figure.only cell).series = [] := unoccupied
  rw [blocks_of_cell valid inside, steps_of_grid (valid.only cell), series]
  rfl

theorem isLabelled_of_unoccupied (unoccupied : figure.occupants cell = []) :
    ¬ figure.isLabelled cell = true := by
  rw [isLabelled_eq_true]
  rintro ⟨series, member, same, _⟩
  have here : series ∈ figure.occupants cell := List.mem_filter.mpr ⟨member, by simpa using same⟩
  rw [unoccupied] at here
  contradiction

/-- Every axes in use is set once: with one call for its major and one for its minor ticks, and with
one call for each of its limits that is set. A second axis shares the x-range of the first one, so it
gets y-limits only. In a grid the calls for a cell stand between its first binding and the first
fragment in it, however often it is bound again; a cell without series is not bound at all. -/
theorem compile_sets_axes_once {script : String} (compiled : figure.compile.result = .ok script) :
    ∃ layout statements, figure.Emits script layout statements ∧
      (figure.subplots = none → figure.twin = none →
        statements.filter Statement.configures = figure.axesCalls) ∧
      (∀ twin, figure.twin = some twin →
        statements.filter Statement.configures =
          figure.tickCalls "ax" ++ figure.tickCalls "ax2" ++
            limitCalls "ax" "set_xlim" figure.xAxis ++ limitCalls "ax" "set_ylim" figure.yAxis ++
            limitCalls "ax2" "set_ylim" twin.yAxis) ∧
      ∀ shape, figure.subplots = some shape →
        ∃ before drawn after, figure.drawing layout = .ok drawn ∧
          statements = before ++ drawn ++ after ∧
          (before ++ after).filter Statement.configures = [] ∧
          (∀ block ∈ axesBlocks drawn, ∃ series ∈ figure.series, ∃ axes,
            shape.cellExpr series.cell = .ok axes ∧ OpensWith axes block) ∧
          ∀ cell, shape.contains cell →
            ∃ axes blocks, shape.cellExpr cell = .ok axes ∧
              (axesBlocks drawn).filter (fun block => blockAxes block = some axes.text) = blocks ∧
              (figure.occupants cell = [] →
                blocks = [] ∧ statements.filter (Statement.explains axes) = []) ∧
              ∀ first others, figure.occupants cell = first :: others →
                ∃ title fragment later, Figure.fragment first (.cell axes) = .ok fragment ∧
                  blocks = (.assign ["ax"] axes :: title ++ figure.axesCalls ++ fragment) :: later ∧
                  blocks.flatten.filter Statement.configures = figure.axesCalls := by
  obtain ⟨layout, valid, emits⟩ := emits_written compiled
  refine ⟨layout, _, emits, ?single, ?twin, ?grid⟩
  case single =>
    intro plain absent
    rw [filter_written_of_plain (valid.isGrid_eq_false plain) valid,
      filter_axesTexts_of_single absent]
  case twin =>
    intro twin present
    have flat : layout.isGrid = false := by
      rw [valid.layout_eq_twin present]
      rfl
    rw [filter_written_of_plain flat valid, filter_axesTexts_of_twin present]
  case grid =>
    intro shape subplots
    obtain rfl := valid.layout_eq_grid subplots
    refine ⟨figure.preamble ++ figure.axesCreation (.grid shape), _,
      figure.legendStatements (.grid shape) ++ figure.gridTexts ++ figure.postamble,
      drawing_eq valid, ?split, ?outside, ?blocks, ?cells⟩
    case split =>
      simp only [written, List.append_assoc]
      rfl
    case outside =>
      -- Around the drawing phase no name that sets an axis is in use.
      simp only [List.filter_append, confined_preamble.filter_configures (by decide),
        confined_axesCreation.filter_configures (by decide),
        confined_legendStatements.filter_configures (by decide),
        confined_gridTexts.filter_configures (by decide),
        confined_postamble.filter_configures (by decide), List.append_nil]
    case blocks =>
      intro block member
      rw [axesBlocks_steps valid] at member
      obtain ⟨step, drawn, rfl⟩ := List.mem_map.mp member
      have primary := valid.allSeries_of_grid rfl ▸ series_mem_of_step drawn
      exact ⟨step.series, primary, _, Grid.cellExpr_of_contains (valid.inside _ primary),
        opens_step valid drawn⟩
    case cells =>
      intro cell inside
      refine ⟨_, _, Grid.cellExpr_of_contains inside, rfl, fun unoccupied => ?_,
        fun first others occupants => ?_⟩
      · refine ⟨blocks_of_unoccupied valid inside unoccupied, ?_⟩
        rw [filter_explains_written valid inside, if_neg (isLabelled_of_unoccupied unoccupied)]
      · have here : first ∈ figure.occupants cell := by simp [occupants]
        have checked := valid.checked first
          (List.mem_append_left _ (List.mem_filter.mp here).1)
        exact ⟨_, _, _, fragment_of_check checked _, blocks_of_occupants valid inside occupants,
          filter_blocks_of_occupants valid inside occupants⟩

/-- Three cells; the first one is visited twice, the last one not at all. -/
def revisitedCell : Figure where
  subplots := some { rows := 3, columns := 1 }
  xAxis := { limits := some (0.0, 1.0) }
  series :=
    [.line { x := some [1.0] }, .scatter { x := some [2.0], cell := { row := 1 } },
      .line { y := some [3.0] }]

theorem revisitedCell_sets_axes_once :
    ∃ script, revisitedCell.compile.result = .ok script ∧
      ∃ layout statements drawn axes other, revisitedCell.Emits script layout statements ∧
        revisitedCell.drawing layout = .ok drawn ∧ drawn <:+: statements ∧
        Grid.cellExpr { rows := 3, columns := 1 } {} = .ok axes ∧
        ((axesBlocks drawn).filter fun block => blockAxes block = some axes.text).flatten.filter
          Statement.configures =
            ["major", "minor"].map (fun which =>
              .evaluate (.method (.name "ax") "tick_params"
                [.named "axis" (.quoted "both"), .named "which" (.quoted which)])) ++
              [.evaluate (.method (.name "ax") "set_xlim" [.numbers [0.0, 1.0]])] ∧
        Grid.cellExpr { rows := 3, columns := 1 } { row := 2 } = .ok other ∧
        (axesBlocks drawn).filter (fun block => blockAxes block = some other.text) = [] := by
  have validated : revisitedCell.validate = .ok (.grid { rows := 3, columns := 1 }) := rfl
  have compiled := compile_eq_ok_iff.mpr ⟨_, validate_eq_ok_iff.mp validated, rfl⟩
  obtain ⟨layout, statements, emits, _, _, grid⟩ := compile_sets_axes_once compiled
  obtain ⟨before, drawn, after, drawing, split, _, _, cells⟩ := grid _ rfl
  obtain ⟨axes, blocks, found, rfl, _, occupied⟩ := cells {} (by decide)
  obtain ⟨other, empty, foundOther, rfl, unoccupied, _⟩ := cells { row := 2 } (by decide)
  obtain ⟨_, _, _, _, _, once⟩ := occupied _ _ rfl
  exact ⟨_, compiled, layout, statements, drawn, axes, other, emits, drawing,
    ⟨before, after, split.symm⟩, found, once, foundOther, (unoccupied rfl).1⟩

end Figure

end FigureScript
