import FigureScript.Proofs.Figure.Legends
import FigureScript.Proofs.Figure.OwnAxes
import FigureScript.Proofs.Figure.WellFormed
import FigureScript.Proofs.Series.Labels

namespace FigureScript.Figure

/-! # The labels of a script

The labels of a script are the legend texts of its series, in drawing order, and all that has a
label is in the list of lines when the common legend of two axes is made from it.
-/

variable {figure : Figure} {layout : Layout}

/-! ## Parts without labels -/

theorem labelTexts_front (figure : Figure) (layout : Layout) :
    ∀ statement ∈ figure.preamble ++ figure.axesCreation layout, statement.labelTexts = [] := by
  intro statement member
  rcases List.mem_append.mp member with first | creation
  · exact (confined_preamble statement first).labelTexts_eq_nil (by decide)
  · exact (confined_axesCreation statement creation).labelTexts_eq_nil (by decide)

theorem labelTexts_back (figure : Figure) (layout : Layout) :
    ∀ statement ∈ figure.legendStatements layout ++ figure.configuration layout ++ figure.postamble,
      statement.labelTexts = [] := by
  intro statement member
  rcases List.mem_append.mp member with settings | last
  · rcases List.mem_append.mp settings with legend | setting
    · exact (confined_legendStatements statement legend).labelTexts_eq_nil (by decide)
    · exact (confined_configuration statement setting).labelTexts_eq_nil (by decide)
  · exact (confined_postamble statement last).labelTexts_eq_nil (by decide)

/-- The drawing phase stands between the two. -/
theorem written_eq (figure : Figure) (layout : Layout) :
    figure.written layout = (figure.preamble ++ figure.axesCreation layout) ++
      (figure.steps layout).flatMap Step.statements ++
        (figure.legendStatements layout ++ figure.configuration layout ++ figure.postamble) := by
  simp only [written, List.append_assoc]

/-! ## Steps -/

theorem fragment_of_step (valid : figure.Valid layout) {step : Step}
    (member : step ∈ figure.steps layout) :
    Series.Fragment step.axes step.series step.fragment :=
  .of_check (valid.checked _ (series_mem_of_step member)) step.axes

theorem labelled_step (valid : figure.Valid layout) {step : Step}
    (member : step ∈ figure.steps layout) :
    Labelled step.axes.expr step.series.entryTexts step.statements := by
  have setup : Labelled step.axes.expr [] step.setup :=
    .of_confined (confined_setup member) (by decide)
  exact setup.append (fragment_of_step valid member).labelled

theorem labelledCalls_steps (valid : figure.Valid layout) :
    ((figure.steps layout).flatMap Step.statements).flatMap Statement.labelledCalls =
      figure.series.flatMap (Series.entries (.name "ax")) ++
        figure.twinSeries.flatMap (Series.entries (.name "ax2")) := by
  have each : (figure.steps layout).flatMap
        (fun step => step.statements.flatMap Statement.labelledCalls) =
      (figure.steps layout).flatMap fun step => step.series.entries step.axes.expr := by
    rw [List.flatMap_def, List.flatMap_def,
      List.map_congr_left fun step member => (labelled_step valid member).calls]
    rfl
  rw [List.flatMap_assoc, each]
  exact flatMap_steps Series.entries

/-! ## Whole scripts -/

theorem shows_written (valid : figure.Valid layout) :
    ∀ statement ∈ figure.written layout, statement.Shows := by
  intro statement member
  rw [written_eq] at member
  rcases List.mem_append.mp member with inner | last
  · rcases List.mem_append.mp inner with first | drawn
    · exact .of_plain (labelTexts_front figure layout statement first)
    · obtain ⟨step, taken, inside⟩ := List.mem_flatMap.mp drawn
      exact (labelled_step valid taken).shows statement inside
  · exact .of_plain (labelTexts_back figure layout statement last)

theorem labelledCalls_written (valid : figure.Valid layout) :
    (figure.written layout).flatMap Statement.labelledCalls =
      figure.series.flatMap (Series.entries (.name "ax")) ++
        figure.twinSeries.flatMap (Series.entries (.name "ax2")) := by
  have front := Statement.flatMap_labelledCalls_eq_nil (labelTexts_front figure layout)
  have back := Statement.flatMap_labelledCalls_eq_nil (labelTexts_back figure layout)
  rw [written_eq, List.flatMap_append, List.flatMap_append, front, back, labelledCalls_steps valid,
    List.nil_append, List.append_nil]

theorem map_entries (axes : Expr) (series : List Series) :
    (series.flatMap (Series.entries axes)).map Prod.snd = series.flatMap Series.entryTexts := by
  simp [List.map_flatMap, Series.entries, Function.comp_def]

theorem labelTexts_written (valid : figure.Valid layout) :
    (figure.written layout).flatMap Statement.labelTexts =
      figure.allSeries.flatMap Series.entryTexts := by
  rw [Statement.flatMap_labelTexts (shows_written valid), labelledCalls_written valid,
    List.map_append, map_entries, map_entries, allSeries, List.flatMap_append]

theorem labelArguments_written (valid : figure.Valid layout)
    (unquoted : ∀ text ∈ figure.texts, '\'' ∉ text.toList) {statement : Statement}
    (member : statement ∈ figure.written layout) :
    Lexer.labelArguments (Lexer.tokens .plain statement.text) =
      statement.labelledCalls.map Prod.snd := by
  rw [Statement.labelArguments_text (legible_written valid unquoted statement member)]
  exact (shows_written valid statement member).texts

theorem hasLabels_of_entryTexts (shown : figure.allSeries.flatMap Series.entryTexts ≠ []) :
    figure.hasLabels = true := by
  obtain ⟨text, member⟩ := List.exists_mem_of_ne_nil _ shown
  obtain ⟨series, drawn, own⟩ := List.mem_flatMap.mp member
  have entry := Series.hasLegendEntry_of_entryTexts (List.ne_nil_of_mem own)
  exact hasLabels_eq_true.mpr ⟨series, drawn, entry⟩

/-! ## The list of lines -/

/-- Once the list of lines is there, nothing else is called by its name. -/
theorem lines_not_bound (valid : figure.Valid .twin) :
    ∀ statement ∈ figure.axesCreation .twin ++ (figure.steps .twin).flatMap Step.statements,
      "lines" ∉ statement.binds := by
  have creation : "lines" ∉ (figure.axesCreation .twin).flatMap Statement.binds := by
    cases size : figure.size <;>
      simp +decide [axesCreation, singleAxes, sizeStatements, size]
  intro statement member bound
  rcases List.mem_append.mp member with first | drawn
  · exact creation (List.mem_flatMap.mpr ⟨statement, first, bound⟩)
  · obtain ⟨step, taken, inside⟩ := List.mem_flatMap.mp drawn
    have setup : step.setup = [] := by
      rcases step_cases taken with ⟨_, _, earlier, same⟩ | ⟨_, _, same⟩
      · rw [same, bindCell_of_plain rfl]
      · exact same
    rw [Step.statements, setup, List.nil_append] at inside
    have own : "lines" ∈ step.series.locals :=
      (fragment_of_step valid taken).binds_eq ▸ List.mem_flatMap.mpr ⟨statement, inside, bound⟩
    exact absurd (Series.locals_subset own) (by decide)

/-- The script of two axes with labels, from the empty list of lines to the legend made from it. -/
theorem written_twin (labels : figure.hasLabels = true) :
    figure.written .twin =
      imports ++ styleStatements figure.style ++ .assign ["lines"] (.list []) ::
        (figure.axesCreation .twin ++ (figure.steps .twin).flatMap Step.statements) ++
          collectLabels :: .assign ["lgd"] (.method (.name "ax2") "legend"
            ([.name "lines", .name "labels"] ++ figure.legend.arguments)) ::
            (figure.configuration .twin ++ figure.postamble) := by
  obtain ⟨collected, legend⟩ := legendStatements_twin labels
  rw [legend] at collected
  rw [written, collected, preamble]
  simp

/-- The labels of a script are the legend texts of its series that are not empty, primary series
first: those of a line, scatter or bar series once, the one of an error band before the one of its
area, and none of a matrix. Every call with a label draws on the axes of its series and is added to
the list of lines by the statement it stands in; where two axes have a common legend, that happens
between the statement that starts the list and those that make the legend from it. -/
theorem compile_shows_labels {script : String} (compiled : figure.compile.result = .ok script)
    (unquoted : ∀ text ∈ figure.texts, '\'' ∉ text.toList) :
    ∃ layout statements, figure.Emits script layout statements ∧
      Lexer.labelArguments (Lexer.tokens .plain script) =
        figure.allSeries.flatMap Series.entryTexts ∧
      statements.flatMap Statement.labelledCalls =
        figure.series.flatMap (Series.entries (.name "ax")) ++
          figure.twinSeries.flatMap (Series.entries (.name "ax2")) ∧
      (∀ statement ∈ statements,
        Lexer.labelArguments (Lexer.tokens .plain statement.text) =
          statement.labelledCalls.map Prod.snd ∧
        ∀ axes text, (axes, text) ∈ statement.labelledCalls → statement.Lists axes text) ∧
      (layout = .twin → figure.allSeries.flatMap Series.entryTexts ≠ [] →
        ∃ before drawn after,
          statements = before ++ .assign ["lines"] (.list []) :: drawn ++ collectLabels ::
            .assign ["lgd"] (.method (.name "ax2") "legend"
              ([.name "lines", .name "labels"] ++ figure.legend.arguments)) :: after ∧
          (∀ statement ∈ drawn, "lines" ∉ statement.binds) ∧
          ∀ statement ∈ before ++ after, statement.labelledCalls = []) := by
  obtain ⟨layout, valid, emits⟩ := emits_written compiled
  have legible := legible_written valid unquoted
  obtain ⟨present, visible⟩ := lines_written figure layout
  refine ⟨layout, _, emits, ?texts, labelledCalls_written valid, ?each, ?common⟩
  case texts =>
    -- Without quotes in its texts every line is read as the tokens of its statement.
    rw [← emits.rendered, Script.labelArguments_render legible present visible,
      labelTexts_written valid]
  case each =>
    intro statement member
    exact ⟨labelArguments_written valid unquoted member,
      (shows_written valid statement member).listed⟩
  case common =>
    rintro rfl shown
    refine ⟨_, _, _, written_twin (hasLabels_of_entryTexts shown), lines_not_bound valid, ?_⟩
    intro statement member
    refine Statement.labelledCalls_eq_nil ?_
    rcases List.mem_append.mp member with before | after
    · refine labelTexts_front figure .twin statement ?_
      exact List.mem_append_left _ (List.mem_append_left _ before)
    · refine labelTexts_back figure .twin statement ?_
      rw [List.append_assoc]
      exact List.mem_append_right _ after

/-- All kinds on two axes, with a label that is used twice, one of a matrix, and an empty one. -/
def labelledKinds : Figure where
  series :=
    [.line { x := some [1.0], label := some "a" },
      .matrix { values := [[2.0]], label := some "m" },
      .errorBand
        { x := some [1.0], errors := some [0.5], label := some "b", errorLabel := some "c" }]
  twin := some
    { series :=
        [.bar { values := some [3.0], label := some "a" },
          .scatter { y := some [4.0], label := some "" }] }

theorem labelledKinds_shows_labels :
    ∃ script, labelledKinds.compile.result = .ok script ∧
      (∀ text ∈ labelledKinds.texts, '\'' ∉ text.toList) ∧
      Lexer.labelArguments (Lexer.tokens .plain script) = ["a", "b", "c", "a"] ∧
      ∃ layout statements, labelledKinds.Emits script layout statements ∧
        ∀ statement ∈ statements, ∀ axes text, (axes, text) ∈ statement.labelledCalls →
          statement.Lists axes text := by
  have compiled : labelledKinds.compile.result =
      .ok (Script.ofStatements (labelledKinds.written .twin)).render :=
    compile_eq_ok_iff.mpr ⟨.twin, validate_eq_ok_iff.mp rfl, rfl⟩
  have unquoted : ∀ text ∈ labelledKinds.texts, '\'' ∉ text.toList := by decide
  obtain ⟨layout, statements, emits, texts, _, each, _⟩ := compile_shows_labels compiled unquoted
  exact ⟨_, compiled, unquoted, texts, layout, statements, emits,
    fun statement member => (each statement member).2⟩

end FigureScript.Figure
