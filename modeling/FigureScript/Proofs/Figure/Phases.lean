import FigureScript.Proofs.Figure.Addition
import FigureScript.Proofs.Figure.Legends
import FigureScript.Proofs.Script.Phases

namespace FigureScript

/-! # One phase after the other

Each part of a script belongs to one phase. Main statement: a script goes through its phases in
order and enters none of them twice.
-/

namespace Figure

variable {figure : Figure} {layout : Layout} {isGrid : Bool}

/-! ## The part of each phase -/

def phaseStatements (figure : Figure) (layout : Layout) : Phase → List Statement
  | .opening => figure.preamble
  | .creation => figure.axesCreation layout
  | .drawing => (figure.steps layout).flatMap Step.statements
  | .legends => figure.legendStatements layout
  | .settings => figure.configuration layout
  | .saving => [figure.saveStatement]
  | .showing => figure.showStatements

theorem written_eq_flatMap :
    figure.written layout = Phase.all.flatMap (figure.phaseStatements layout) := by
  simp only [written, Phase.all, List.flatMap_cons, List.flatMap_nil, phaseStatements,
    List.append_assoc, List.append_nil]
  rfl

theorem owns_preamble : Phase.opening.Owns isGrid figure.preamble := by
  have fixed : Phase.opening.Owns isGrid imports := by
    unfold Phase.Owns
    cases isGrid <;> decide
  have style : Phase.opening.Owns isGrid (styleStatements figure.style) := by
    unfold styleStatements
    split
    · refine List.forall_mem_cons.mpr ⟨rfl, ?_⟩
      simp [Statement.phase, Statement.opens, Statement.calls, Phase.ofCalls, Phase.ofName?]
    · exact Phase.owns_nil
  rw [preamble, Phase.owns_append_iff, Phase.owns_append_iff]
  exact ⟨⟨fixed, style⟩, Phase.owns_single rfl⟩

theorem owns_axesCreation : Phase.creation.Owns isGrid (figure.axesCreation layout) := by
  have size : Phase.creation.Owns isGrid figure.sizeStatements := by
    unfold sizeStatements
    split
    · exact Phase.owns_single rfl
    · exact Phase.owns_nil
  cases layout with
  | single => exact Phase.owns_cons_iff.mpr ⟨rfl, size⟩
  | twin => exact Phase.owns_cons_iff.mpr ⟨rfl, Phase.owns_cons_iff.mpr ⟨rfl, size⟩⟩
  | grid shape => exact Phase.owns_cons_iff.mpr ⟨rfl, size⟩

theorem opens_fragment {series : Series} {axes : Axes} {statements : List Statement}
    (fragment : Series.Fragment axes series statements) :
    ∀ statement ∈ statements, statement.opens = false := by
  cases fragment with
  | line trace values => simp
  | scatter trace x y => simp [Series.register]
  | bar bars positions heights =>
      unfold Bars.tickLabels
      split <;> simp [Series.register]
  | errorBand band x y errors =>
      have color : ∀ statement ∈ band.colorDraw, statement.opens = false := by
        unfold Band.colorDraw
        split <;> simp
      have fill : (band.fillStatement axes).opens = false := by
        unfold Band.fillStatement
        split <;> rfl
      simpa [Band.bindArray, fill, or_imp, forall_and] using color
  | matrix values =>
      unfold Matrix.display
      split <;> simp

theorem opens_limitStatement {axes : Axes} {method : String} {axis : Axis} :
    ∀ statement ∈ limitStatement axes method axis, statement.opens = false := by
  unfold limitStatement
  split <;> simp

theorem opens_cellStatements (figure : Figure) (cell : Cell) :
    ∀ statement ∈ figure.cellStatements cell, statement.opens = false := by
  have title : ∀ statement ∈ figure.cellTitle cell, statement.opens = false := by
    unfold cellTitle
    split
    · split <;> simp
    · simp
  have ticks : ∀ statement ∈ figure.tickStatements .primary, statement.opens = false := by
    simp [tickStatements]
  simp only [cellStatements, limitStatements, List.forall_mem_append]
  exact ⟨⟨title, ticks⟩, opens_limitStatement, opens_limitStatement⟩

theorem opens_setup {step : Step} (member : step ∈ figure.steps layout) :
    ∀ statement ∈ step.setup, statement.opens = false := by
  rcases step_cases member with ⟨_, _, earlier, setup⟩ | ⟨_, _, setup⟩
  · rw [setup, bindCell]
    split
    · rename_i binding bound
      cases layout with
      | grid shape =>
          cases bound
          refine List.forall_mem_cons.mpr ⟨rfl, ?_⟩
          split
          · simp
          · exact opens_cellStatements figure step.series.cell
      | single => contradiction
      | twin => contradiction
    · simp
  · simp [setup]

/-- Without a grid nothing stands between the fragments. -/
theorem setup_of_plain (plain : layout.isGrid = false) {step : Step}
    (member : step ∈ figure.steps layout) : step.setup = [] := by
  rcases step_cases member with ⟨_, _, earlier, setup⟩ | ⟨_, _, setup⟩
  · rw [setup, bindCell_of_plain plain]
  · exact setup

theorem owns_setup {step : Step} (member : step ∈ figure.steps layout) :
    Phase.drawing.Owns layout.isGrid step.setup := by
  cases isGrid : layout.isGrid with
  | true => exact Phase.drawing_owns (confined_setup member) (opens_setup member) (by decide)
  | false =>
      rw [setup_of_plain isGrid member]
      exact Phase.owns_nil

theorem owns_drawing (valid : figure.Valid layout) :
    Phase.drawing.Owns layout.isGrid ((figure.steps layout).flatMap Step.statements) := by
  intro statement member
  obtain ⟨step, drawn, inside⟩ := List.mem_flatMap.mp member
  rcases List.mem_append.mp inside with setup | fragment
  · exact owns_setup drawn statement setup
  · have checked := valid.checked _ (series_mem_of_step drawn)
    have others : ∀ name ∈ "" :: fragmentNames, ∀ isGrid, Phase.ofName? isGrid name = none := by
      decide
    exact Phase.drawing_owns (confined_fragment valid drawn)
      (opens_fragment (.of_check checked step.axes)) (fun name known => others name known _)
      statement fragment

theorem owns_legendStatements : Phase.legends.Owns isGrid (figure.legendStatements layout) := by
  unfold legendStatements
  split
  · cases layout with
    | single => exact Phase.owns_single rfl
    | twin => exact Phase.owns_cons_iff.mpr ⟨rfl, Phase.owns_single rfl⟩
    | grid shape =>
        intro statement member
        obtain ⟨cell, _, rfl⟩ := List.mem_map.mp member
        rfl
  · exact Phase.owns_nil

theorem owns_textStatement {object : Expr} {method : String} {text : Option String}
    (known : Phase.ofName? isGrid method = some .settings) :
    Phase.settings.Owns isGrid (textStatement object method text) := by
  cases text with
  | none => exact Phase.owns_nil
  | some value => exact Phase.owns_single (Phase.phase_method known)

theorem owns_sideText {x y : Float} {text : Option String} {direction : List Expr} :
    Phase.settings.Owns isGrid (sideText x y text direction) := by
  cases text with
  | none => exact Phase.owns_nil
  | some value => exact Phase.owns_single rfl

theorem owns_tickStatements {axes : Axes} :
    Phase.settings.Owns false (figure.tickStatements axes) := by
  intro statement member
  obtain ⟨ticks, _, rfl⟩ := List.mem_map.mp member
  rfl

theorem owns_limitStatement {axes : Axes} {method : String} {axis : Axis}
    (known : Phase.ofName? isGrid method = some .settings) :
    Phase.settings.Owns isGrid (limitStatement axes method axis) := by
  unfold limitStatement
  split
  · exact Phase.owns_single (Phase.phase_method known)
  · exact Phase.owns_nil

theorem owns_configuration :
    Phase.settings.Owns layout.isGrid (figure.configuration layout) := by
  unfold configuration
  cases layout.isGrid with
  | true =>
      simp only [if_true, gridTexts, Phase.owns_append_iff]
      exact ⟨⟨owns_textStatement rfl, owns_sideText⟩, owns_sideText⟩
  | false =>
      simp only [Bool.false_eq_true, if_false, axesTexts, limitStatements, Phase.owns_append_iff]
      refine ⟨⟨⟨⟨⟨⟨⟨?title, ?x⟩, ?y⟩, ?second⟩, ?ticks⟩, ?twinTicks⟩, ?xLimits, ?yLimits⟩,
        ?twinLimits⟩
      case title | x | y | second => exact owns_textStatement rfl
      case ticks => exact owns_tickStatements
      case twinTicks =>
        split
        · exact owns_tickStatements
        · exact Phase.owns_nil
      case xLimits | yLimits => exact owns_limitStatement rfl
      case twinLimits =>
        split
        · exact owns_limitStatement rfl
        · exact Phase.owns_nil

theorem owns_showStatements : Phase.showing.Owns isGrid figure.showStatements := by
  unfold showStatements
  split
  · exact Phase.owns_single rfl
  · exact Phase.owns_nil

theorem owns_phaseStatements (valid : figure.Valid layout) (phase : Phase) :
    phase.Owns layout.isGrid (figure.phaseStatements layout phase) := by
  cases phase with
  | opening => exact owns_preamble
  | creation => exact owns_axesCreation
  | drawing => exact owns_drawing valid
  | legends => exact owns_legendStatements
  | settings => exact owns_configuration
  | saving => exact Phase.owns_single rfl
  | showing => exact owns_showStatements

theorem part_written (valid : figure.Valid layout) (phase : Phase) :
    phase.part layout.isGrid (figure.written layout) = figure.phaseStatements layout phase := by
  rw [written_eq_flatMap, Phase.part_flatMap (owns_phaseStatements valid)]

/-! ## Calls of one phase only -/

/-- The names that occur in a phase. -/
def phaseNames : Phase → List String
  | .opening =>
    ["warnings", "simplefilter", "pylab", "TypeError", "e", "print", "str", "matplotlib", "use",
      "itertools", "seaborn", "sns", "set", "style", "set_context", "palette", "cycle",
      "color_palette", "lines"]
  | .creation =>
    ["fig", "ax", "ax2", "axs", "subplots", "sharex", "sharey", "twinx", "set_size_inches",
      "forward"]
  | .drawing => "axs" :: cellNames ++ fragmentNames
  | .legends =>
    ["lgd", "ax", "ax2", "axs", "legend", "fontsize", "loc", "labels", "lines", "l", "get_label"]
  | .settings => ["fig", "suptitle", "text", "ha", "va", "rotation", "ax2"] ++ axesNames
  | .saving => ["fig", "savefig", "format", "bbox_extra_artists", "bbox_inches", "lgd"]
  | .showing => ["show", "block"]

theorem confined_phaseStatements (valid : figure.Valid layout) (phase : Phase) :
    Confined (phaseNames phase) figure.Quotes (figure.phaseStatements layout phase) := by
  cases phase with
  | opening => exact confined_preamble
  | creation => exact confined_axesCreation
  | drawing => exact confined_drawing valid
  | legends => exact confined_legendStatements
  | settings => exact confined_configuration
  | saving =>
      have path : figure.Quotes figure.outputPath := .inr (.inr (.inl rfl))
      cases labels : figure.hasLabels <;> cases tight : figure.tight <;>
        simp +decide [phaseStatements, phaseNames, saveStatement, labels, tight, path,
          quotes_of_harmless]
  | showing =>
      cases shown : figure.showWindow <;>
        simp +decide [phaseStatements, phaseNames, showStatements, shown]

/-- A name that occurs in one phase only is called in that phase only. -/
theorem filter_invokes_written (valid : figure.Valid layout) {name : String} (phase : Phase)
    (elsewhere : ∀ other ∈ Phase.all, other ≠ phase → name ∉ "" :: phaseNames other) :
    (figure.written layout).filter (Statement.invokes name) =
      (figure.phaseStatements layout phase).filter (Statement.invokes name) := by
  have each : ∀ other ∈ Phase.all,
      (figure.phaseStatements layout other).filter (Statement.invokes name) =
        if other = phase then
          (figure.phaseStatements layout phase).filter (Statement.invokes name)
        else [] := by
    intro other member
    by_cases same : other = phase
    · rw [if_pos same, same]
    · rw [if_neg same]
      exact (confined_phaseStatements valid other).filter_invokes name (elsewhere other member same)
  rw [written_eq_flatMap, List.filter_flatMap, List.flatMap_def, List.map_congr_left each]
  cases phase <;> simp [Phase.all]

theorem filter_axesCreation_written (valid : figure.Valid layout) {name : String}
    (own : name ∈ ["subplots", "twinx", "set_size_inches"]) :
    (figure.written layout).filter (Statement.invokes name) =
      (figure.axesCreation layout).filter (Statement.invokes name) := by
  have elsewhere : ∀ name ∈ ["subplots", "twinx", "set_size_inches"], ∀ other ∈ Phase.all,
      other ≠ .creation → name ∉ "" :: phaseNames other := by decide
  exact filter_invokes_written valid .creation (elsewhere name own)

theorem filter_show_written (valid : figure.Valid layout) :
    (figure.written layout).filter (Statement.invokes "show") = figure.showStatements := by
  rw [filter_invokes_written valid .showing (by decide)]
  cases shown : figure.showWindow with
  | false => simp [phaseStatements, showStatements, shown]
  | true => simp [phaseStatements, showStatements, shown, Statement.invokes, Statement.calls]

/-- The call that makes the axes of a layout. -/
def axesCall : Layout → Statement
  | .grid shape => shape.creation
  | .single | .twin => singleAxes

/-- The call that makes a second axis, in the layout that has one. -/
def twinCall (layout : Layout) : List Statement :=
  if layout = .twin then [.assign ["ax2"] (.method (.name "ax") "twinx" [])] else []

/-- The call that sets the size, where a size is set. -/
def sizeCall (figure : Figure) : List Statement :=
  figure.size.toList.map fun size =>
    .evaluate (.method (.name "fig") "set_size_inches"
      [.number size.1, .number size.2, .named "forward" (.truth true)])

theorem axesCreation_eq :
    figure.axesCreation layout = axesCall layout :: (twinCall layout ++ figure.sizeCall) := by
  have size : figure.sizeStatements = figure.sizeCall := by
    cases settings : figure.size <;> simp [sizeStatements, sizeCall, settings]
  cases layout <;> simp [axesCreation, axesCall, twinCall, size]

theorem filter_creation_calls (valid : figure.Valid layout) :
    (figure.written layout).filter (Statement.invokes "subplots") = [axesCall layout] ∧
      (figure.written layout).filter (Statement.invokes "twinx") = twinCall layout ∧
      (figure.written layout).filter (Statement.invokes "set_size_inches") = figure.sizeCall := by
  rw [filter_axesCreation_written valid (by simp), filter_axesCreation_written valid (by simp),
    filter_axesCreation_written valid (by simp), axesCreation_eq]
  cases size : figure.size <;> cases layout <;>
    simp [axesCall, twinCall, sizeCall, size, singleAxes, Grid.creation, Statement.invokes,
      Statement.calls]

/-! ## The order -/

/-- What prepares a series for drawing: nothing without a grid; in a grid its cell is bound, and
configured unless that was done before. -/
def SetUp (figure : Figure) (layout : Layout) (step : Step) : Prop :=
  match layout with
  | .single | .twin => step.setup = []
  | .grid shape =>
    ∃ axes, shape.cellExpr step.series.cell = .ok axes ∧
      (step.setup = [.assign ["ax"] axes] ∨
        step.setup = .assign ["ax"] axes :: figure.cellStatements step.series.cell)

theorem setUp_of_mem (valid : figure.Valid layout) {step : Step}
    (member : step ∈ figure.steps layout) : figure.SetUp layout step := by
  cases layout with
  | single => exact setup_of_plain rfl member
  | twin => exact setup_of_plain rfl member
  | grid shape =>
      rcases step_cases member with ⟨primary, _, earlier, setup⟩ | ⟨second, _⟩
      · refine ⟨_, Grid.cellExpr_of_contains (valid.inside _ primary), ?_⟩
        rw [setup, bindCell_of_grid]
        split
        · exact .inl rfl
        · exact .inr rfl
      · rw [valid.twinSeries_of_grid rfl] at second
        contradiction

/-- The phases in front of the one that saves. -/
def earlyPhases : List Phase := [.opening, .creation, .drawing, .legends, .settings]

theorem written_eq_early :
    figure.written layout = earlyPhases.flatMap (figure.phaseStatements layout) ++
      figure.saveStatement :: figure.showStatements := by
  have split : Phase.all = earlyPhases ++ [.saving, .showing] := rfl
  rw [written_eq_flatMap, split, List.flatMap_append]
  simp [phaseStatements]

theorem position_of_early (valid : figure.Valid layout) {statement : Statement}
    (member : statement ∈ earlyPhases.flatMap (figure.phaseStatements layout)) :
    (statement.phase layout.isGrid).position < Phase.saving.position := by
  obtain ⟨phase, early, inside⟩ := List.mem_flatMap.mp member
  have positions : ∀ phase ∈ earlyPhases, phase.position < Phase.saving.position := by decide
  rw [owns_phaseStatements valid phase statement inside]
  exact positions phase early

/-- No statement of a script belongs to an earlier phase than one in front of it. It opens with
imports and style. Then the axes are made, once, with a second axis in a layout that has one and
with the size if that is set. All series follow, each on its prepared axes; then all legends; then
all settings of the figure. The figure is saved once, under the name of its file, and shown after
that if it is to be shown. -/
theorem compile_orders_phases {script : String} (compiled : figure.compile.result = .ok script) :
    ∃ layout statements, figure.Emits script layout statements ∧
      statements.Pairwise (fun earlier later =>
        (earlier.phase layout.isGrid).position ≤ (later.phase layout.isGrid).position) ∧
      Phase.opening.part layout.isGrid statements = figure.preamble ∧
      Phase.creation.part layout.isGrid statements =
        axesCall layout :: (twinCall layout ++ figure.sizeCall) ∧
      statements.filter (Statement.invokes "subplots") = [axesCall layout] ∧
      statements.filter (Statement.invokes "twinx") = twinCall layout ∧
      statements.filter (Statement.invokes "set_size_inches") = figure.sizeCall ∧
      (∃ steps, figure.Draws layout steps ∧ (∀ step ∈ steps, figure.SetUp layout step) ∧
        Phase.drawing.part layout.isGrid statements = steps.flatMap Step.statements) ∧
      figure.legends layout = .ok (Phase.legends.part layout.isGrid statements) ∧
      Phase.settings.part layout.isGrid statements =
        (if layout.isGrid then figure.gridTexts else figure.axesTexts) ∧
      ∃ before save arguments shown,
        statements = before ++ save :: shown ∧
        (∀ statement ∈ before,
          (statement.phase layout.isGrid).position < Phase.saving.position) ∧
        save = .evaluate (.method (.name "fig") "savefig"
          (.quoted figure.outputPath :: arguments)) ∧
        statements.filter (Statement.invokes "savefig") = [save] ∧
        shown = (if figure.showWindow then
          [.evaluate (.call (.name "show") [.named "block" (.truth figure.block)])] else []) ∧
        statements.filter (Statement.invokes "show") = shown := by
  obtain ⟨layout, valid, emits⟩ := emits_written compiled
  have part := part_written valid
  obtain ⟨axes, second, size⟩ := filter_creation_calls valid
  refine ⟨layout, _, emits, ?ordered, part .opening, ?creation, axes, second, size, ?drawing,
    ?legends, part .settings, ?saving⟩
  case ordered =>
    -- Phase by phase the script is put together, and no part calls what shows another phase.
    rw [written_eq_flatMap]
    exact Phase.pairwise_flatMap (owns_phaseStatements valid)
  case creation =>
    rw [part .creation]
    exact axesCreation_eq
  case drawing =>
    exact ⟨figure.steps layout, draws_steps valid, fun step member => setUp_of_mem valid member,
      part .drawing⟩
  case legends =>
    rw [part .legends]
    exact legends_eq valid
  case saving =>
    exact ⟨_, figure.saveStatement, _, figure.showStatements, written_eq_early,
      fun statement member => position_of_early valid member, rfl, filter_savefig_written valid,
      rfl, filter_show_written valid⟩

/-- A second axis, a size, a legend and a title; the window stays closed. -/
def sizedTwin : Figure where
  title := some "t"
  size := some (4.0, 3.0)
  series := [.line { x := some [1.0], label := some "a" }]
  twin := some { series := [.scatter { x := some [2.0] }] }
  showWindow := false

theorem sizedTwin_orders_phases :
    ∃ script, sizedTwin.compile.result = .ok script ∧
      ∃ layout statements, sizedTwin.Emits script layout statements ∧
        Phase.creation.part layout.isGrid statements =
          [singleAxes, .assign ["ax2"] (.method (.name "ax") "twinx" []),
            .evaluate (.method (.name "fig") "set_size_inches"
              [.number 4.0, .number 3.0, .named "forward" (.truth true)])] ∧
        ∃ before save, statements = before ++ [save] ∧
          statements.filter (Statement.invokes "savefig") = [save] := by
  have validated : sizedTwin.validate = .ok .twin := rfl
  have compiled := compile_eq_ok_iff.mpr ⟨_, validate_eq_ok_iff.mp validated, rfl⟩
  obtain ⟨layout, statements, emits, _, _, creation, _, _, _, _, _, _, before, save, _, shown,
    split, _, _, saved, closed, _⟩ := compile_orders_phases compiled
  have settled := emits.validated
  rw [validated] at settled
  cases settled
  cases closed
  exact ⟨_, compiled, _, statements, emits, creation, before, save, split, saved⟩

end Figure

end FigureScript
