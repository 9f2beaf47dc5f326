import FigureScript.Proofs.Script.Labels
import FigureScript.Proofs.Series.Calls

namespace FigureScript

/-! # The labels of series

Which calls of a script have a label, and on what they act. Main statement: the draw calls of a
series show its texts in order, and each call with a label is added to the list of lines.
-/

namespace Call

/-- What a call acts on, with each of its labels. -/
def labelled (call : Call) : List (Expr × String) :=
  call.target.toList.flatMap fun target => call.labels.map fun text => (target, text)

theorem labelled_method (object : Expr) (field : String) (items : List Expr) :
    labelled ⟨.member object field, items⟩ =
      (items.filterMap Expr.label?).map fun text => (object, text) := by
  simp [labelled, target, labels]

theorem labelled_eq_nil {calls : List Call} (plain : ∀ call ∈ calls, call.labels ⊆ []) :
    calls.flatMap labelled = [] := by
  refine List.flatMap_eq_nil_iff.mpr fun call member => ?_
  simp [labelled, List.subset_nil.mp (plain call member)]

end Call

def Expr.labelledCalls (expression : Expr) : List (Expr × String) :=
  expression.calls.flatMap Call.labelled

namespace Statement

def labelledCalls (statement : Statement) : List (Expr × String) :=
  statement.calls.flatMap Call.labelled

/-- The statement adds to the list of lines what a call with this label draws. -/
def Lists (statement : Statement) (axes : Expr) (text : String) : Prop :=
  ∃ field ∈ drawNames, ∃ arguments, .named "label" (.quoted text) ∈ arguments ∧
    (statement = .extend "lines" (.method axes field arguments) ∨
      statement = Series.register (.method axes field arguments))

/-- The labels in the line of a statement are those of its calls, and what these calls draw is added
to the list of lines. -/
structure Shows (statement : Statement) : Prop where
  texts : statement.labelTexts = statement.labelledCalls.map Prod.snd
  listed : ∀ axes text, (axes, text) ∈ statement.labelledCalls → statement.Lists axes text

variable {statement : Statement}

theorem labelledCalls_eq_nil (plain : statement.labelTexts = []) : statement.labelledCalls = [] :=
  Call.labelled_eq_nil fun _ inside => plain ▸ labels_subset inside

theorem Shows.of_plain (plain : statement.labelTexts = []) : statement.Shows where
  texts := by rw [plain, labelledCalls_eq_nil plain, List.map_nil]
  listed axes text member := by
    rw [labelledCalls_eq_nil plain] at member
    contradiction

theorem flatMap_labelledCalls_eq_nil {statements : List Statement}
    (plain : ∀ statement ∈ statements, statement.labelTexts = []) :
    statements.flatMap labelledCalls = [] :=
  List.flatMap_eq_nil_iff.mpr fun statement member => labelledCalls_eq_nil (plain statement member)

theorem flatMap_labelTexts {statements : List Statement}
    (shows : ∀ statement ∈ statements, statement.Shows) :
    statements.flatMap labelTexts = (statements.flatMap labelledCalls).map Prod.snd := by
  rw [List.map_flatMap, List.flatMap_def, List.flatMap_def,
    List.map_congr_left fun statement member => (shows statement member).texts]

end Statement

/-- These statements have calls with these labels on these axes and no others. -/
structure Labelled (axes : Expr) (texts : List String) (statements : List Statement) : Prop where
  shows : ∀ statement ∈ statements, statement.Shows
  calls : statements.flatMap Statement.labelledCalls = texts.map fun text => (axes, text)

namespace Labelled

variable {axes : Expr} {first second : List String} {left right : List Statement}

theorem of_plain (plain : ∀ statement ∈ left, statement.labelTexts = []) :
    Labelled axes [] left where
  shows statement member := .of_plain (plain statement member)
  calls := Statement.flatMap_labelledCalls_eq_nil plain

theorem append (front : Labelled axes first left) (back : Labelled axes second right) :
    Labelled axes (first ++ second) (left ++ right) where
  shows statement member := (List.mem_append.mp member).elim (front.shows _) (back.shows _)
  calls := by rw [List.flatMap_append, front.calls, back.calls, List.map_append]

/-- Behind a statement with a label there may be some without. -/
theorem cons_plain {statement : Statement} (front : Labelled axes first [statement])
    (plain : ∀ statement ∈ right, statement.labelTexts = []) :
    Labelled axes first (statement :: right) := by
  have whole := front.append (of_plain plain)
  rwa [List.append_nil] at whole

/-- The lines of these statements have the same labels as their calls. -/
theorem texts (labelled : Labelled axes first left) :
    left.flatMap Statement.labelTexts = first := by
  rw [Statement.flatMap_labelTexts labelled.shows, labelled.calls, List.map_map]
  exact List.map_id _

theorem of_confined {names : List String} {quote : String → Prop}
    (confined : Confined names quote left) (unlabelled : "label" ∉ names) : Labelled axes [] left :=
  .of_plain fun statement member => (confined statement member).labelTexts_eq_nil unlabelled

end Labelled

namespace Series

/-- The texts that a series shows in a legend, in the order of its draw calls. -/
def entryTexts : Series → List String
  | line trace | scatter trace => (Given.text trace.label).toList
  | bar bars => (Given.text bars.label).toList
  | errorBand band => (Given.text band.label).toList ++ (Given.text band.errorLabel).toList
  | matrix _ => []

/-- All kinds but one show what they are asked to. A matrix has no draw call for its label. -/
theorem entryTexts_eq (series : Series) :
    (∃ values, series = matrix values) ∨ series.legendTexts = series.entryTexts := by
  cases series with
  | matrix values => exact .inl ⟨values, rfl⟩
  | line trace | scatter trace =>
      cases given : Given.text trace.label <;> simp [legendTexts, entryTexts, label, given]
  | bar bars =>
      cases given : Given.text bars.label <;> simp [legendTexts, entryTexts, label, given]
  | errorBand band =>
      cases given : Given.text band.label <;> cases errors : Given.text band.errorLabel <;>
        simp [legendTexts, entryTexts, given, errors]

theorem hasLegendEntry_of_entryTexts {series : Series} (shown : series.entryTexts ≠ []) :
    series.hasLegendEntry = true := by
  rcases series.entryTexts_eq with ⟨values, rfl⟩ | same
  · contradiction
  · simpa [hasLegendEntry, same] using shown

/-- The labels of a series, all on the same axes. -/
def entries (axes : Expr) (series : Series) : List (Expr × String) :=
  series.entryTexts.map fun text => (axes, text)

/-! ## One draw call -/

section

variable {values : List Expr} (axes : Axes) (field : String) (label : Option String)

theorem labelTexts_labelArgument :
    (labelArgument label).flatMap Expr.labelTexts = (Given.text label).toList := by
  cases given : Given.text label <;> simp [labelArgument, given]

@[simp] theorem labelTexts_axes (axes : Axes) : axes.expr.labelTexts = [] := rfl

theorem labelTexts_draw (plain : values.flatMap Expr.labelTexts = []) :
    (Expr.method axes.expr field (values ++ labelArgument label)).labelTexts =
      (Given.text label).toList := by
  rw [Expr.labelTexts_method, List.flatMap_append, plain, labelTexts_labelArgument]
  rfl

/-- A draw call has the label that it is given, and nothing among its other arguments has one. -/
theorem labelledCalls_draw (plain : values.flatMap Expr.labelTexts = []) :
    (Expr.method axes.expr field (values ++ labelArgument label)).labelledCalls =
      (Given.text label).toList.map fun text => (axes.expr, text) := by
  have own : (values ++ labelArgument label).filterMap Expr.label? = (Given.text label).toList := by
    have others : values.filterMap Expr.label? = [] := by
      refine List.filterMap_eq_nil_iff.mpr fun value member => ?_
      cases given : value.label? with
      | none => rfl
      | some text =>
          have here := List.flatMap_eq_nil_iff.mp plain value member
          rw [Expr.label?_eq_some_iff.mp given] at here
          contradiction
    rw [List.filterMap_append, others, List.nil_append]
    cases given : Given.text label <;> simp [labelArgument, given, Expr.label?]
  have nested :
      ((values ++ labelArgument label).flatMap Expr.calls).flatMap Call.labelled = [] := by
    refine Call.labelled_eq_nil fun call inside => ?_
    obtain ⟨argument, member, within⟩ := List.mem_flatMap.mp inside
    rcases List.mem_append.mp member with value | named
    · exact List.flatMap_eq_nil_iff.mp plain argument value ▸ argument.labels_subset within
    · cases given : Given.text label with
      | none => simp [labelArgument, given] at named
      | some text =>
          simp only [labelArgument, given, List.mem_singleton] at named
          subst named
          contradiction
  rw [Expr.labelledCalls, Expr.calls_method, List.flatMap_cons, List.flatMap_append, nested,
    Call.labelled_method, own]
  exact List.append_nil _

variable {axes field label}

theorem named_mem_of_label {text : String} (given : text ∈ (Given.text label).toList) :
    .named "label" (.quoted text) ∈ values ++ labelArgument label := by
  simp [labelArgument, Option.mem_toList.mp given]

theorem labelTexts_register (call : Expr) : (register call).labelTexts = call.labelTexts := by
  simp [register]

theorem labelledCalls_register {call : Expr} (plain : call.label? = none) :
    (register call).labelledCalls = call.labelledCalls := by
  simp [register, Statement.labelledCalls, Statement.calls, Call.labelled_method, plain,
    Expr.labelledCalls]

/-- Such a call shows its label where it is added to the list of lines. -/
theorem labelled_draw {call : Expr} {statement : Statement}
    (added : statement = .extend "lines" call ∨ statement = register call)
    (built : call = .method axes.expr field (values ++ labelArgument label))
    (draws : field ∈ drawNames) (plain : values.flatMap Expr.labelTexts = []) :
    Labelled axes.expr (Given.text label).toList [statement] := by
  subst built
  have texts := labelTexts_draw axes field label plain
  have calls := labelledCalls_draw axes field label plain
  have same : statement.labelTexts = (Given.text label).toList ∧
      statement.labelledCalls = (Given.text label).toList.map fun text => (axes.expr, text) := by
    rcases added with rfl | rfl
    · exact ⟨(Statement.labelTexts_extend _ _).trans texts, calls⟩
    · exact ⟨(labelTexts_register _).trans texts, (labelledCalls_register rfl).trans calls⟩
  have shows : statement.Shows := by
    refine ⟨?_, fun on text member => ?_⟩
    · rw [same.1, same.2, List.map_map]
      exact (List.map_id _).symm
    · rw [same.2] at member
      obtain ⟨_, given, ⟨⟩⟩ := List.mem_map.mp member
      exact ⟨field, draws, _, named_mem_of_label given, added⟩
  exact ⟨by simpa using shows, by simpa using same.2⟩

end

/-! ## The statements of a series -/

@[simp] theorem labelTexts_color (color : Color) : color.expr.labelTexts = [] := by
  cases color <;> rfl

@[simp] theorem labelTexts_colorArgument (color : Option Color) :
    (colorArgument color).flatMap Expr.labelTexts = [] := by
  cases color <;> simp [colorArgument, Expr.labelTexts_named]

@[simp] theorem labelTexts_errorArgument (bars : Bars) :
    bars.errorArgument.flatMap Expr.labelTexts = [] := by
  cases errors : bars.errors <;> cases horizontal : bars.horizontal <;>
    simp [Bars.errorArgument, errors, horizontal, Expr.labelTexts_named]

theorem labelTexts_tickLabels (bars : Bars) (axes : Axes) (positions : List Float) :
    ∀ statement ∈ bars.tickLabels axes positions, statement.labelTexts = [] := by
  unfold Bars.tickLabels
  split <;> simp

theorem labelTexts_colorDraw (band : Band) :
    ∀ statement ∈ band.colorDraw, statement.labelTexts = [] := by
  unfold Band.colorDraw
  split <;> simp [Statement.labelTexts_assign]

@[simp] theorem labelTexts_bandColor (band : Band) :
    band.colorArgument.flatMap Expr.labelTexts = [] := by
  unfold Band.colorArgument
  split
  · simp [Expr.labelTexts_named]
  · exact labelTexts_colorArgument _

theorem labelTexts_display (values : Matrix) (axes : Axes) :
    ∀ statement ∈ values.display axes, statement.labelTexts = [] := by
  have imported : (Statement.importFrom "mpltools" "special").labelTexts = [] := rfl
  cases hinton : values.hinton <;>
    simp [Matrix.display, hinton, Expr.labelTexts_named, imported]

theorem labelled_fill (band : Band) (axes : Axes) :
    Labelled axes.expr (Given.text band.errorLabel).toList [band.fillStatement axes] := by
  have fill : Labelled axes.expr (Given.text band.errorLabel).toList
      [register (band.fill axes)] :=
    labelled_draw (.inr rfl) rfl (by decide) (by simp [Expr.labelTexts_named])
  unfold Band.fillStatement
  split
  · exact fill
  · rename_i unset
    have texts := fill.texts
    rw [unset] at texts ⊢
    exact .of_plain (by simpa [labelTexts_register] using texts)

/-- The statements of a series show its texts, on its axes. -/
theorem Fragment.labelled {axes : Axes} {series : Series} {statements : List Statement}
    (drawn : Fragment axes series statements) :
    Labelled axes.expr series.entryTexts statements := by
  cases drawn with
  | line trace values =>
      rw [Trace.options, ← List.append_assoc]
      exact labelled_draw (.inl rfl) rfl (by decide) (by simp [List.flatMap_map])
  | scatter trace x y =>
      rw [Trace.options, ← List.append_assoc]
      exact labelled_draw (.inr rfl) rfl (by decide) (by simp)
  | bar bars positions heights =>
      have method : bars.drawMethod ∈ drawNames := by
        cases horizontal : bars.horizontal <;> simp +decide [Bars.drawMethod, horizontal]
      refine Labelled.cons_plain ?_ (labelTexts_tickLabels bars axes positions)
      exact labelled_draw (.inr rfl) rfl method (by simp [Expr.labelTexts_named])
  | errorBand band x y errors =>
      have arrays : ∀ statement ∈ [Band.bindArray "x" x, Band.bindArray "y" y,
          Band.bindArray "e" errors], statement.labelTexts = [] := by
        simp [Band.bindArray, Statement.labelTexts_assign]
      have line : Labelled axes.expr (Given.text band.label).toList [.extend "lines"
          (.method axes.expr "plot"
            ([.name "x", .name "y"] ++ band.colorArgument ++ labelArgument band.label))] :=
        labelled_draw (.inl rfl) rfl (by decide) (by simp)
      exact (Labelled.of_plain (labelTexts_colorDraw band)).append
        ((Labelled.of_plain arrays).append (line.append (labelled_fill band axes)))
  | matrix values =>
      refine .of_plain (List.forall_mem_cons.mpr ⟨?_, labelTexts_display values axes⟩)
      simp [Statement.labelTexts_assign]

end Series

end FigureScript
