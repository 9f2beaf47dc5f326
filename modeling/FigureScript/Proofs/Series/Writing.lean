import FigureScript.Proofs.Script.Renaming
import FigureScript.Proofs.Series.Vocabulary

namespace FigureScript

/-! # Series are written as a whole or not at all

Writing a series checks all of it first. Main statement: a series that fails its check leaves the
script and the reports as they were, and any other adds its statements behind what is there.
-/

namespace Writing

variable {α β : Type} {draft : Draft}

theorem run_lift_ok (value : α) (next : α → Writing β) :
    (lift (.ok value) >>= next).run.run draft = (next value).run.run draft := rfl

theorem run_lift_error (error : SeriesError) (next : α → Writing β) :
    (lift (.error error) >>= next).run.run draft = (.error error, draft) := rfl

theorem run_line_bind (statement : Statement) (next : Unit → Writing β) :
    (line statement >>= next).run.run draft = (next ()).run.run (draft.append [statement]) := rfl

theorem run_report_bind (event : Event) (next : Unit → Writing β) :
    (report event >>= next).run.run draft = (next ()).run.run (draft.report [event]) := rfl

theorem run_line (statement : Statement) :
    (line statement).run.run draft = (.ok (), draft.append [statement]) := rfl

theorem run_lines (statements : List Statement) :
    (lines statements).run.run draft = (.ok (), draft.append statements) := by
  induction statements generalizing draft with
  | nil => rw [Draft.append_nil]; rfl
  | cons statement rest ih =>
      have step : lines (statement :: rest) = (line statement >>= fun _ => lines rest) := rfl
      rw [step, run_line_bind, ih, Draft.append_append, List.singleton_append]

theorem run_lines_bind (statements : List Statement) (next : Unit → Writing β) :
    (lines statements >>= next).run.run draft =
      (next ()).run.run (draft.append statements) := by
  rw [ExceptT.run_bind, StateT.run_bind, run_lines]
  rfl

/-- The program adds the statements of the fragment and these events, or fails with the error of the
fragment and changes nothing. -/
def Appends (program : Writing Unit) (fragment : Except SeriesError (List Statement))
    (events : List Event) : Prop :=
  ∀ draft, program.run.run draft =
    match fragment with
    | .ok statements => (.ok (), (draft.append statements).report events)
    | .error error => (.error error, draft)

end Writing

open Writing

theorem Trace.appends_writeLine (trace : Trace) (axes : Axes) :
    Appends (trace.writeLine axes) (trace.line axes) [] := by
  intro draft
  cases points : trace.points with
  | error error => simp only [writeLine, line, points, run_lift_error]
  | ok values => simp only [writeLine, line, points, run_lift_ok, run_line, Draft.report_nil]

theorem Trace.appends_writeScatter (trace : Trace) (axes : Axes) :
    Appends (trace.writeScatter axes) (trace.scatter axes) [] := by
  intro draft
  cases points : trace.points with
  | error error => simp only [writeScatter, scatter, points, run_lift_error]
  | ok values =>
      simp only [writeScatter, scatter, points, run_lift_ok, run_line, Draft.report_nil]

theorem Bars.draw_of_error {bars : Bars} {error : SeriesError}
    (refused : bars.check = .error error) (axes : Axes) : bars.draw axes = .error error := by
  simp only [draw, refused, bind, Except.bind]

theorem Bars.draw_of_check {bars : Bars} (checked : bars.check = .ok ()) :
    ∃ heights, bars.heights = .ok heights ∧ ∀ axes, bars.draw axes =
      .ok (bars.drawStatement axes (bars.positions heights) heights ::
        bars.tickLabels axes (bars.positions heights)) := by
  cases found : bars.heights with
  | error error =>
      have refused : bars.check = .error error := by
        simp only [check, found, bind, Except.bind]
      rw [refused] at checked
      contradiction
  | ok heights =>
      refine ⟨heights, rfl, fun axes => ?_⟩
      simp only [draw, checked, found, bind, Except.bind, pure, Except.pure]

/-- Bars are checked again where they are written, and their heights are there for bars that pass. -/
theorem Bars.appends_write (bars : Bars) (axes : Axes) :
    Appends (bars.write axes) (bars.draw axes) [] := by
  intro draft
  cases checked : bars.check with
  | error error => simp only [write, checked, draw_of_error checked, run_lift_error]
  | ok =>
      obtain ⟨heights, found, drawn⟩ := draw_of_check checked
      simp only [write, checked, found, drawn, run_lift_ok, run_line_bind, run_lines,
        Draft.append_append, List.singleton_append, Draft.report_nil]

theorem Band.appends_write (band : Band) (axes : Axes) :
    Appends (band.write axes) (band.draw axes) [] := by
  intro draft
  cases lists : band.values with
  | error error => simp only [write, draw, lists, run_lift_error]
  | ok values =>
      simp only [write, draw, lists, run_lift_ok, run_line_bind, run_lines_bind, run_line,
        Draft.append_append, List.append_assoc, List.cons_append, List.nil_append,
        Draft.report_nil]

theorem Matrix.appends_write (matrix : Matrix) (axes : Axes) :
    Appends (matrix.write axes) (matrix.draw axes) (Series.matrix matrix).notes := by
  intro draft
  cases checked : matrix.check with
  | error error => simp only [write, draw, checked, run_lift_error]
  | ok =>
      cases ignored : matrix.ignoresColorMap with
      | true =>
          simp only [write, draw, checked, ignored, if_true, Series.notes, run_lift_ok,
            run_report_bind, run_line_bind, run_lines, Draft.append_report, Draft.append_append,
            List.singleton_append]
      | false =>
          simp only [write, draw, checked, ignored, Bool.false_eq_true, if_false, Series.notes,
            run_lift_ok, run_line_bind, run_lines, Draft.append_append, List.singleton_append,
            Draft.report_nil]

namespace Series

theorem appends_write (series : Series) (axes : Axes) :
    Appends (series.write axes) (series.statements axes) series.notes := by
  cases series with
  | line trace => exact trace.appends_writeLine axes
  | scatter trace => exact trace.appends_writeScatter axes
  | bar bars => exact bars.appends_write axes
  | errorBand band => exact band.appends_write axes
  | matrix values => exact values.appends_write axes

theorem run_write_of_check {series : Series} (checked : series.check = .ok ()) (axes : Axes)
    (draft : Draft) :
    (series.write axes).run.run draft =
      (.ok (), (draft.append (series.drawn axes)).report series.notes) := by
  rw [series.appends_write axes draft, statements_of_check checked axes]

theorem run_write_of_error {series : Series} {error : SeriesError}
    (refused : series.check = .error error) (axes : Axes) (draft : Draft) :
    (series.write axes).run.run draft = (.error error, draft) := by
  have failed : series.statements axes = .error error := by
    have agree := series.map_statements axes
    rw [refused] at agree
    cases drawn : series.statements axes with
    | ok statements => rw [drawn] at agree; contradiction
    | error other =>
        rw [drawn] at agree
        exact congrArg Except.error (Except.error.inj agree)
  rw [series.appends_write axes draft, failed]

theorem result_render_of_check {series : Series} (checked : series.check = .ok ()) (axes : Axes)
    (script : Script) :
    (series.render axes script).result = .ok (script.append (series.drawn axes)) := by
  simp only [render, run_write_of_check checked]
  rfl

theorem check_of_render {series : Series} {axes : Axes} {script after : Script}
    (rendered : (series.render axes script).result = .ok after) : series.check = .ok () := by
  cases checked : series.check with
  | ok => rfl
  | error error =>
      simp only [render, run_write_of_error checked, Except.map] at rendered
      contradiction

end Series

/-! ## Drawing on other axes -/

section

variable (axes : Axes)

/-- The variable of the primary axes is no name of a series itself. -/
theorem Series.drawingWords_ne : ∀ name ∈ drawingWords, name ≠ "ax" := by decide

theorem Axes.renamed_method (field : String) {items : List Expr}
    (free : ∀ item ∈ items, item.Uses (· ≠ "ax") fun _ => True) :
    (Expr.method Axes.primary.expr field items).renamed "ax" axes.variableName =
      .method axes.expr field items := by
  rw [Expr.renamed_method, Expr.map_renamed free]
  exact congrArg (Expr.method · field items) Expr.renamed_name_self

theorem Series.renamed_register {call drawn : Expr}
    (same : call.renamed "ax" axes.variableName = drawn) :
    (register call).renamed "ax" axes.variableName = register drawn := by
  have lines : (Expr.name "lines").renamed "ax" axes.variableName = .name "lines" :=
    Expr.renamed_of_uses _ (by simp)
  simp only [register, Statement.renamed, Expr.renamed_method, lines, List.map_cons, same,
    List.map_nil]

theorem Series.free_labelArgument (label : Option String) :
    ∀ item ∈ labelArgument label, item.Uses (· ≠ "ax") fun _ => True :=
  uses_labelArgument drawingWords_ne fun _ _ => trivial

theorem Trace.free_options (trace : Trace) :
    ∀ item ∈ trace.options, item.Uses (· ≠ "ax") fun _ => True :=
  Series.uses_options trace Series.drawingWords_ne (fun _ => by decide) (fun _ _ => trivial)
    fun _ _ => trivial

theorem Trace.renamed_lineStatement (trace : Trace) (points : Points) :
    (trace.lineStatement .primary points).renamed "ax" axes.variableName =
      trace.lineStatement axes points := by
  have free : ∀ item ∈ (points.x.toList ++ [points.y]).map Expr.numbers ++ trace.options,
      item.Uses (· ≠ "ax") fun _ => True := by
    simpa [or_imp, forall_and] using trace.free_options
  simp only [lineStatement, Statement.renamed, axes.renamed_method "plot" free]
  rfl

theorem Trace.renamed_scatterStatement (trace : Trace) (points : Points) :
    (trace.scatterStatement .primary points).renamed "ax" axes.variableName =
      trace.scatterStatement axes points := by
  refine Series.renamed_register axes (axes.renamed_method "scatter" ?_)
  simpa [or_imp, forall_and] using trace.free_options

theorem Bars.renamed_drawStatement (bars : Bars) (positions heights : List Float) :
    (bars.drawStatement .primary positions heights).renamed "ax" axes.variableName =
      bars.drawStatement axes positions heights := by
  have color : (bars.color.getD .blue).expr.Uses (· ≠ "ax") fun _ => True :=
    Series.uses_color Series.drawingWords_ne (fun _ => by decide) fun _ _ => trivial
  have errors : ∀ item ∈ bars.errorArgument, item.Uses (· ≠ "ax") fun _ => True :=
    Series.uses_errorArgument bars Series.drawingWords_ne
  have label := Series.free_labelArgument bars.label
  refine Series.renamed_register axes (axes.renamed_method bars.drawMethod ?_)
  simpa [or_imp, forall_and] using And.intro color (And.intro errors label)

theorem Bars.renamed_tickLabels (bars : Bars) (positions : List Float) :
    (bars.tickLabels .primary positions).map (Statement.renamed "ax" axes.variableName) =
      bars.tickLabels axes positions := by
  unfold tickLabels
  split
  · simp only [List.map_cons, List.map_nil, Statement.renamed]
    rw [axes.renamed_method _ (by simp), axes.renamed_method _ (by simp)]
  · rfl

theorem Band.free_colorArgument (band : Band) :
    ∀ item ∈ band.colorArgument, item.Uses (· ≠ "ax") fun _ => True :=
  Series.uses_bandColor Series.drawingWords_ne (fun _ => by decide) fun _ _ => trivial

theorem Band.renamed_lineStatement (band : Band) :
    (band.lineStatement .primary).renamed "ax" axes.variableName = band.lineStatement axes := by
  have free : ∀ item ∈ [Expr.name "x", .name "y"] ++ band.colorArgument ++
      Series.labelArgument band.label, item.Uses (· ≠ "ax") fun _ => True := by
    simpa [or_imp, forall_and] using
      And.intro band.free_colorArgument (Series.free_labelArgument band.label)
  simp only [lineStatement, Statement.renamed, axes.renamed_method "plot" free]
  rfl

theorem Band.renamed_fill (band : Band) :
    (band.fill .primary).renamed "ax" axes.variableName = band.fill axes := by
  refine axes.renamed_method "fill_between" ?_
  simpa [or_imp, forall_and] using
    And.intro band.free_colorArgument (Series.free_labelArgument band.errorLabel)

theorem Band.renamed_fillStatement (band : Band) :
    (band.fillStatement .primary).renamed "ax" axes.variableName = band.fillStatement axes := by
  unfold fillStatement
  split
  · exact Series.renamed_register axes (band.renamed_fill axes)
  · exact congrArg Statement.evaluate (band.renamed_fill axes)

theorem Band.renamed_colorDraw (band : Band) :
    band.colorDraw.map (Statement.renamed "ax" axes.variableName) = band.colorDraw :=
  have free : ∀ statement ∈ band.colorDraw, statement.Uses (· ≠ "ax") fun _ => True :=
    Series.uses_colorDraw Series.drawingWords_ne fun _ => by decide
  (List.map_congr_left fun statement member =>
    Statement.renamed_of_uses (free statement member)).trans (List.map_id' _)

theorem Band.renamed_bindArray {name : String} (other : name ≠ "ax") (values : List Float) :
    (Band.bindArray name values).renamed "ax" axes.variableName = Band.bindArray name values :=
  Statement.renamed_of_uses (by simp [bindArray, other])

theorem Matrix.renamed_bindRows (matrix : Matrix) :
    matrix.bindRows.renamed "ax" axes.variableName = matrix.bindRows :=
  Statement.renamed_of_uses (by simp [bindRows])

theorem Matrix.renamed_display (matrix : Matrix) :
    (matrix.display .primary).map (Statement.renamed "ax" axes.variableName) =
      matrix.display axes := by
  unfold display
  split
  · rfl
  · simp only [List.map_cons, List.map_nil, Statement.renamed]
    rw [axes.renamed_method _ (by simp)]

/-- Other axes change nothing in the statements of a series but the variable. -/
theorem Series.statements_eq_renamed (series : Series) :
    series.statements axes =
      (series.statements .primary).map (List.map (Statement.renamed "ax" axes.variableName)) := by
  cases series with
  | line trace =>
      cases points : trace.points with
      | error error => simp only [statements, Trace.line, points, Except.map]
      | ok values => simp [statements, Trace.line, points, Except.map, trace.renamed_lineStatement]
  | scatter trace =>
      cases points : trace.points with
      | error error => simp only [statements, Trace.scatter, points, Except.map]
      | ok values =>
          simp [statements, Trace.scatter, points, Except.map, trace.renamed_scatterStatement]
  | bar bars =>
      cases checked : bars.check with
      | error error => simp only [statements, Bars.draw_of_error checked, Except.map]
      | ok =>
          obtain ⟨heights, _, drawn⟩ := Bars.draw_of_check checked
          simp [statements, drawn, Except.map, bars.renamed_drawStatement, bars.renamed_tickLabels]
  | errorBand band =>
      cases lists : band.values with
      | error error => simp only [statements, Band.draw, lists, Except.map]
      | ok values =>
          simp [statements, Band.draw, lists, Except.map, band.renamed_colorDraw,
            Band.renamed_bindArray, band.renamed_lineStatement, band.renamed_fillStatement]
  | matrix values =>
      cases checked : values.check with
      | error error => simp only [statements, Matrix.draw, checked, Except.map]
      | ok =>
          simp [statements, Matrix.draw, checked, Except.map, values.renamed_bindRows,
            values.renamed_display]

end

namespace Series

theorem drawn_eq_renamed (series : Series) (axes : Axes) :
    series.drawn axes =
      (series.drawn .primary).map (Statement.renamed "ax" axes.variableName) := by
  simp only [drawn, series.statements_eq_renamed axes]
  cases series.statements .primary <;> rfl

/-- A series that fails its check leaves what was written and reported before; any other adds its lines
behind it. The lines depend on the axes through their variable alone: those for a cell are those for the
primary axes, and for a twin only the variable is another. -/
theorem write_all_or_nothing (series : Series) (axes : Axes) (draft : Draft) :
    (series.write axes).run.run draft =
        (match series.check with
        | .error error => (.error error, draft)
        | .ok () =>
          (.ok (),
            { script := ⟨draft.script.lines ++ (series.drawn axes).map Statement.text⟩
              events := draft.events ++ series.notes })) ∧
      (∀ expression, series.drawn (.cell expression) = series.drawn .primary) ∧
      series.drawn .twin = (series.drawn .primary).map (Statement.renamed "ax" "ax2") := by
  refine ⟨?written, fun expression => ?_, series.drawn_eq_renamed .twin⟩
  case written =>
    cases checked : series.check with
    | error error => exact run_write_of_error checked axes draft
    | ok => exact run_write_of_check checked axes draft
  rw [series.drawn_eq_renamed (.cell expression)]
  exact (series.drawn_eq_renamed .primary).symm

end Series

end FigureScript
