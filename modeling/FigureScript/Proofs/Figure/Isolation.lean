import Mathlib
import FigureScript.Proofs.Figure.Legends
import FigureScript.Proofs.Figure.OwnAxes
import FigureScript.Proofs.Grid.Selection

namespace FigureScript

open Lexer

/-! # Cells do not interfere

What a figure with subplots draws in one cell does not depend on the other cells: it is what the
figure draws when all other series are left out. The drawing phase is cut where it binds the axes,
and a block belongs to the cell whose expression it binds.
-/

/-! ## Blocks -/

/-- The statements cut in front of each one that assigns the axes. -/
def axesBlocks (statements : List Statement) : List (List Statement) :=
  statements.splitBy fun _ next => (next.valueFor "ax").isNone

/-- The axes that the first statement of a block assigns, as they are written. -/
def blockAxes (block : List Statement) : Option String :=
  (block.head?.bind (Statement.valueFor "ax")).map Expr.text

/-- The block assigns the axes at its start and nowhere else. -/
def OpensWith (axes : Expr) (block : List Statement) : Prop :=
  ∃ rest, block = .assign ["ax"] axes :: rest ∧
    ∀ statement ∈ rest, statement.valueFor "ax" = none

theorem valueFor_binding (axes : Expr) : (Statement.assign ["ax"] axes).valueFor "ax" = some axes := by
  simp +decide [Statement.valueFor, Statement.value?]

theorem OpensWith.blockAxes_eq {axes : Expr} {block : List Statement}
    (opens : OpensWith axes block) : blockAxes block = some axes.text := by
  obtain ⟨rest, rfl, _⟩ := opens
  simp only [blockAxes, List.head?_cons, Option.bind_some, valueFor_binding, Option.map_some]

/-- Blocks that assign the axes at their start are found again where they stand in a row. -/
theorem axesBlocks_flatten {blocks : List (List Statement)}
    (opens : ∀ block ∈ blocks, ∃ axes, OpensWith axes block) :
    axesBlocks blocks.flatten = blocks := by
  refine List.splitBy_flatten ?present ?inside ?between
  case present =>
    intro empty
    obtain ⟨_, _, same, _⟩ := opens [] empty
    contradiction
  case inside =>
    intro block member
    obtain ⟨axes, rest, rfl, kept⟩ := opens block member
    apply List.Pairwise.isChain
    rw [List.pairwise_cons]
    refine ⟨fun next within => by simp [kept next within], ?_⟩
    exact List.pairwise_of_forall_mem_list fun _ _ next within => by simp [kept next within]
  case between =>
    apply List.Pairwise.isChain
    refine List.pairwise_of_forall_mem_list fun left before right behind => ?_
    obtain ⟨_, _, rfl, _⟩ := opens left before
    obtain ⟨axes, _, rfl, _⟩ := opens right behind
    refine ⟨by simp, by simp, ?_⟩
    simp [valueFor_binding]

/-- True for a statement that makes a legend on the given axes. -/
def Statement.explains (axes : Expr) (statement : Statement) : Bool :=
  statement.calls.any fun call =>
    call.name == "legend" && call.target.any fun target => target.text == axes.text

namespace Figure

variable {figure : Figure} {layout : Layout} {shape : Grid} {cell : Cell}

/-- The figure with the primary series of one cell and no others. -/
def only (figure : Figure) (cell : Cell) : Figure :=
  { figure with series := figure.series.filter fun series => series.cell = cell }

theorem mem_series_only {series : Series} :
    series ∈ (figure.only cell).series ↔ series ∈ figure.series ∧ series.cell = cell := by
  simp [only]

theorem allSeries_only_subset : (figure.only cell).allSeries ⊆ figure.allSeries := by
  intro series member
  rcases List.mem_append.mp member with primary | twin
  · exact List.mem_append_left _ (mem_series_only.mp primary).1
  · exact List.mem_append_right _ twin

theorem Valid.only (valid : figure.Valid layout) (cell : Cell) :
    (figure.only cell).Valid layout where
  arranged := valid.arranged
  checked series member := valid.checked series (allSeries_only_subset member)
  styled series member := valid.styled series (allSeries_only_subset member)
  inside series member := valid.inside series (mem_series_only.mp member).1

/-! ## Drawing -/

/-- The settings of a cell are made of the series in it and of what all cells share. -/
theorem cellStatements_only (figure : Figure) (cell : Cell) :
    (figure.only cell).cellStatements cell = figure.cellStatements cell := by
  have occupants : (figure.only cell).occupants cell = figure.occupants cell := by
    simp [Figure.occupants, Figure.only]
  have title : (figure.only cell).cellTitle cell = figure.cellTitle cell := by
    simp only [cellTitle, occupants]
  simp only [cellStatements, title]
  rfl

theorem bindCell_only {configured others : List Cell} (axes : Axes)
    (same : cell ∈ configured ↔ cell ∈ others) :
    (figure.only cell).bindCell others axes cell = figure.bindCell configured axes cell := by
  cases axes with
  | primary => rfl
  | twin => rfl
  | cell expression => simp only [bindCell, Axes.binding, cellStatements_only, same]

/-- Whatever else was drawn before, the steps in a cell are those of its own series. -/
theorem primarySteps_only {configured others : List Cell} {series : List Series}
    (same : cell ∈ configured ↔ cell ∈ others) :
    (figure.primarySteps layout configured series).filter (fun step => step.series.cell = cell) =
      (figure.only cell).primarySteps layout others
        (series.filter fun one => one.cell = cell) := by
  -- The two runs have configured different cells, but agree on whether this one is among them.
  induction series generalizing configured others with
  | nil => rfl
  | cons one rest ih =>
      by_cases here : one.cell = cell
      · have later : cell ∈ one.cell :: configured ↔ cell ∈ one.cell :: others := by simp [here]
        subst here
        simp only [primarySteps, decide_true, List.filter_cons_of_pos, ih later,
          bindCell_only _ same]
      · have later : cell ∈ one.cell :: configured ↔ cell ∈ others := by
          simp [Ne.symm here, same]
        simp only [primarySteps, here, decide_false, Bool.false_eq_true, not_false_eq_true,
          List.filter_cons_of_neg, ih later]

theorem steps_of_grid (valid : figure.Valid (.grid shape)) :
    figure.steps (.grid shape) = figure.primarySteps (.grid shape) [] figure.series := by
  rw [steps, twinSteps, valid.twinSeries_of_grid rfl, List.map_nil, List.append_nil]

theorem steps_only (valid : figure.Valid (.grid shape)) (cell : Cell) :
    (figure.steps (.grid shape)).filter (fun step => step.series.cell = cell) =
      (figure.only cell).steps (.grid shape) := by
  rw [steps_of_grid valid, steps_of_grid (valid.only cell), primarySteps_only Iff.rfl]
  rfl

theorem opens_step (valid : figure.Valid (.grid shape)) {step : Step}
    (member : step ∈ figure.steps (.grid shape)) :
    OpensWith (shape.selector step.series.cell) step.statements := by
  obtain ⟨earlier, later, split⟩ := List.append_of_mem member
  obtain ⟨settings, setup, _, plain⟩ := setup_of_grid valid split
  have drawn := Series.Fragment.of_check (valid.checked _ (series_mem_of_step member)) step.axes
  refine ⟨settings ++ step.fragment, by rw [Step.statements, setup, List.cons_append], ?_⟩
  intro statement inside
  rcases List.mem_append.mp inside with setting | within
  · rw [Statement.valueFor, plain statement setting, ite_self]
  · exact drawn.valueFor_ax within

theorem axesBlocks_steps (valid : figure.Valid (.grid shape)) :
    axesBlocks ((figure.steps (.grid shape)).flatMap Step.statements) =
      (figure.steps (.grid shape)).map Step.statements := by
  rw [List.flatMap_def]
  refine axesBlocks_flatten fun block member => ?_
  obtain ⟨step, drawn, rfl⟩ := List.mem_map.mp member
  exact ⟨_, opens_step valid drawn⟩

theorem drawing_infix_written (figure : Figure) (layout : Layout) :
    (figure.steps layout).flatMap Step.statements <:+: figure.written layout := by
  refine ⟨figure.preamble ++ figure.axesCreation layout,
    figure.legendStatements layout ++ figure.configuration layout ++ figure.postamble, ?_⟩
  simp only [written, List.append_assoc]

/-- The blocks of a cell are the steps of its series alone. -/
theorem blocks_of_cell (valid : figure.Valid (.grid shape)) (inside : shape.contains cell) :
    (axesBlocks ((figure.steps (.grid shape)).flatMap Step.statements)).filter
        (fun block => blockAxes block = some (shape.selector cell).text) =
      ((figure.only cell).steps (.grid shape)).map Step.statements := by
  have owned : ∀ step ∈ figure.steps (.grid shape),
      (blockAxes step.statements = some (shape.selector cell).text ↔ step.series.cell = cell) := by
    intro step member
    have primary := valid.allSeries_of_grid rfl ▸ series_mem_of_step member
    rw [(opens_step valid member).blockAxes_eq, Option.some_inj]
    constructor
    · exact Grid.eq_of_selector_text (valid.inside _ primary) inside
    · rintro rfl
      rfl
  rw [axesBlocks_steps valid, List.filter_map, ← steps_only valid cell]
  congr 1
  refine List.filter_congr fun step member => ?_
  simp only [Function.comp_apply, owned step member]

/-- Together they are the drawing phase of its series alone. -/
theorem flatten_blocks_of_cell (valid : figure.Valid (.grid shape)) (inside : shape.contains cell) :
    ((axesBlocks ((figure.steps (.grid shape)).flatMap Step.statements)).filter
        fun block => blockAxes block = some (shape.selector cell).text).flatten =
      ((figure.only cell).steps (.grid shape)).flatMap Step.statements := by
  rw [blocks_of_cell valid inside, List.flatMap_def]

/-! ## Legends -/

theorem calls_selector (grid : Grid) (cell : Cell) : (grid.selector cell).calls = [] := by
  rcases grid.selector_cases cell with ⟨positions, same⟩ | same
  · simp [same, Grid.axes, List.flatMap_map]
  · simp [same, Grid.axes]

theorem explains_legendStatement (shape : Grid) (cell : Cell) (axes : Expr) (legend : Legend) :
    (legendStatement (shape.selector cell) legend.arguments).explains axes =
      ((shape.selector cell).text == axes.text) := by
  simp [legendStatement, Statement.explains, Statement.calls, Legend.arguments, Call.target,
    calls_selector]

theorem invokes_of_explains {axes : Expr} {statement : Statement}
    (explains : statement.explains axes = true) : statement.invokes "legend" = true := by
  obtain ⟨call, inside, called⟩ := List.any_eq_true.mp explains
  rw [Bool.and_eq_true] at called
  exact List.any_eq_true.mpr ⟨call, inside, called.1⟩

theorem isLabelled_eq_true :
    figure.isLabelled cell = true ↔
      ∃ series ∈ figure.series, series.cell = cell ∧ series.hasLegendEntry = true := by
  simp [isLabelled]

theorem isLabelled_only : (figure.only cell).isLabelled cell = figure.isLabelled cell := by
  rw [Bool.eq_iff_iff, isLabelled_eq_true, isLabelled_eq_true]
  constructor
  · rintro ⟨series, member, labelled⟩
    exact ⟨series, (mem_series_only.mp member).1, labelled⟩
  · rintro ⟨series, member, same, entry⟩
    exact ⟨series, mem_series_only.mpr ⟨member, same⟩, same, entry⟩

/-- Of the cells with a legend the ones that are written like a cell are that cell itself. -/
theorem filter_legendCells (valid : figure.Valid (.grid shape)) (inside : shape.contains cell) :
    figure.legendCells.filter
        (fun other => (shape.selector other).text == (shape.selector cell).text) =
      if figure.isLabelled cell then [cell] else [] := by
  have alike : ∀ other ∈ figure.legendCells,
      ((shape.selector other).text == (shape.selector cell).text) = decide (other = cell) := by
    intro other member
    obtain ⟨series, drawn, rfl, _⟩ := mem_legendCells.mp member
    rw [Bool.eq_iff_iff, beq_iff_eq, decide_eq_true_eq]
    constructor
    · exact Grid.eq_of_selector_text (valid.inside _ drawn) inside
    · rintro rfl
      rfl
  have once : figure.legendCells.Nodup := nodup_distinctCells.filter _
  have labelled : cell ∈ figure.legendCells ↔ figure.isLabelled cell = true :=
    mem_legendCells.trans isLabelled_eq_true.symm
  rw [List.filter_congr alike, List.filter_eq, once.count]
  simp only [labelled]
  split <;> rfl

/-- The legend of a cell depends on whether a series in it has an entry, and on nothing else. -/
theorem filter_explains_written (valid : figure.Valid (.grid shape)) (inside : shape.contains cell) :
    (figure.written (.grid shape)).filter (Statement.explains (shape.selector cell)) =
      if figure.isLabelled cell then
        [legendStatement (shape.selector cell) figure.legend.arguments]
      else [] := by
  have among : (figure.written (.grid shape)).filter (Statement.explains (shape.selector cell)) =
      ((figure.written (.grid shape)).filter (Statement.invokes "legend")).filter
        (Statement.explains (shape.selector cell)) := by
    rw [List.filter_filter]
    refine List.filter_congr fun statement _ => ?_
    cases explains : statement.explains (shape.selector cell) with
    | false => rfl
    | true => rw [invokes_of_explains explains, Bool.and_true]
  rw [among, filter_legend_written valid]
  by_cases labels : figure.hasLabels = true
  · rw [filter_legend_grid labels, List.filter_map]
    have own : (Statement.explains (shape.selector cell) ∘
        fun other => legendStatement (shape.selector other) figure.legend.arguments) =
        fun other => (shape.selector other).text == (shape.selector cell).text :=
      funext fun other => explains_legendStatement shape other _ _
    rw [own, filter_legendCells valid inside]
    split <;> rfl
  · have unlabelled : ¬ figure.isLabelled cell = true := by
      rw [isLabelled_eq_true]
      rintro ⟨series, member, _, entry⟩
      exact labels (hasLabels_eq_true.mpr ⟨series, List.mem_append_left _ member, entry⟩)
    rw [legendStatements, if_neg labels, if_neg unlabelled]
    rfl

/-- A figure with subplots draws in each of its cells what it draws there without the series of all
other cells: the same blocks of statements in the same order, and the same legend or none. -/
theorem compile_isolates_cells {script : String} {shape : Grid} {cell : Cell}
    (compiled : figure.compile.result = .ok script) (subplots : figure.subplots = some shape)
    (inside : shape.contains cell) :
    ∃ layout statements drawn axes, figure.Emits script layout statements ∧
      figure.drawing layout = .ok drawn ∧ drawn <:+: statements ∧
      shape.cellExpr cell = .ok axes ∧
      ∃ alone others own, (figure.only cell).compile.result = .ok alone ∧
        (figure.only cell).Emits alone layout others ∧
        (figure.only cell).drawing layout = .ok own ∧ own <:+: others ∧
        ((axesBlocks drawn).filter fun block => blockAxes block = some axes.text).flatten = own ∧
        ∃ legends : List Statement, legends.length ≤ 1 ∧
          statements.filter (Statement.explains axes) = legends ∧
          others.filter (Statement.explains axes) = legends := by
  obtain ⟨layout, valid, emits⟩ := emits_written compiled
  have isGrid : layout = .grid shape := by
    rcases valid.layout_cases with ⟨_, plain, _⟩ | ⟨_, plain, _⟩ | ⟨other, same, settings, _⟩
    · rw [subplots] at plain
      contradiction
    · rw [subplots] at plain
      contradiction
    · rw [subplots, Option.some_inj] at settings
      rw [same, settings]
  subst isGrid
  -- No fault comes in with leaving series out, so the cell by itself compiles as well.
  have alone := valid.only cell
  have compiledAlone := compile_eq_ok_iff.mpr ⟨_, alone, rfl⟩
  refine ⟨_, _, _, _, emits, drawing_eq valid, drawing_infix_written figure _,
    Grid.cellExpr_of_contains inside, _, _, _, compiledAlone,
    ⟨validate_eq_ok_iff.mpr alone, statements_eq alone, rfl⟩, drawing_eq alone,
    drawing_infix_written (figure.only cell) _, flatten_blocks_of_cell valid inside, _, ?_,
    filter_explains_written valid inside, ?_⟩
  · split <;> simp
  · rw [filter_explains_written alone inside, isLabelled_only]
    rfl

/-- Three cells; the series of the first one stand around those of the second, the third is
empty. -/
def interleavedCells : Figure where
  subplots := some { rows := 3, columns := 1 }
  series :=
    [.line { x := some [1.0], label := some "a" },
      .scatter { x := some [2.0], label := some "b", cell := { row := 1 } },
      .line { y := some [3.0] }]

theorem interleavedCells_isolates_cells :
    ∃ script shape, interleavedCells.compile.result = .ok script ∧
      interleavedCells.subplots = some shape ∧ shape.contains {} ∧
      ∃ layout statements drawn axes, interleavedCells.Emits script layout statements ∧
        interleavedCells.drawing layout = .ok drawn ∧ shape.cellExpr {} = .ok axes ∧
        (interleavedCells.only {}).drawing layout =
          .ok ((axesBlocks drawn).filter fun block => blockAxes block = some axes.text).flatten := by
  have validated : interleavedCells.validate = .ok (.grid { rows := 3, columns := 1 }) := rfl
  have compiled : interleavedCells.compile.result = .ok (Script.ofStatements
      (interleavedCells.written (.grid { rows := 3, columns := 1 }))).render :=
    compile_eq_ok_iff.mpr ⟨_, validate_eq_ok_iff.mp validated, rfl⟩
  have inside : Grid.contains { rows := 3, columns := 1 } {} := by decide
  obtain ⟨layout, statements, drawn, axes, emits, drawing, _, selected, _, _, own, _, _, alone, _,
    same, _⟩ := compile_isolates_cells compiled rfl inside
  exact ⟨_, _, compiled, rfl, inside, layout, statements, drawn, axes, emits, drawing, selected,
    same ▸ alone⟩

end Figure

end FigureScript
