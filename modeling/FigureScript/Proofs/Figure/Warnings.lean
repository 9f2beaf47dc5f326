import FigureScript.Proofs.Figure.WellFormed

namespace FigureScript

open Lexer

/-! # What a missing warning means

Compiling warns of texts that end their literals too early. The warnings cover the texts of the figure
itself and the labels of its series, but not the colors, category names, error labels and color maps
that the series are drawn with. Main statement: nothing else is missing. A script that was compiled
without a warning quotes safe texts only exactly when those texts are safe.
-/

/-- Every text that the statement quotes leaves its literal and its line whole. -/
def Statement.Safe (statement : Statement) : Prop :=
  statement.Uses (fun _ => True) fun text => Literal.isUnsafe text = false

theorem Lexer.Harmless.isUnsafe_eq_false {text : String} (harmless : Harmless text) :
    Literal.isUnsafe text = false :=
  Literal.isUnsafe_eq_false.mpr ⟨fun quote => (harmless _ quote).1 rfl, harmless.oneLine⟩

namespace Series

variable {axes : Axes} {quote : String → Prop} {text : String}

theorem eq_named_of_mem_texts {color : Option Color}
    (own : text ∈ color.toList.flatMap Color.texts) : color = some (.named text) := by
  cases color with
  | none => exact absurd own List.not_mem_nil
  | some color =>
      cases color with
      | palette => exact absurd own List.not_mem_nil
      | named name =>
          obtain rfl : text = name := by simpa [Color.texts] using own
          rfl

theorem quote_of_colorArgument {color : Option Color}
    (uses : ∀ item ∈ colorArgument color, item.Uses (fun _ => True) quote)
    (own : text ∈ color.toList.flatMap Color.texts) : quote text := by
  rw [eq_named_of_mem_texts own] at uses
  simpa [colorArgument, Color.expr] using uses

theorem quote_of_tickLabels {bars : Bars} {positions : List Float}
    (uses : ∀ statement ∈ bars.tickLabels axes positions,
      statement.Uses (fun _ => True) quote)
    (own : text ∈ bars.categories.toList.flatMap Categories.texts) : quote text := by
  obtain ⟨categories, given, category⟩ := List.mem_flatMap.mp own
  have chosen : bars.categories = some categories := Option.mem_toList.mp given
  cases categories with
  | numeric positions => exact absurd category List.not_mem_nil
  | labels names =>
      simp only [Bars.tickLabels, chosen, List.forall_mem_cons, Statement.Uses, Expr.uses_method,
        Expr.uses_quotedList] at uses
      exact uses.2.1.2.1 text category

/-- An empty label is left out, so that nothing follows for the empty text. -/
theorem quote_of_fillStatement {band : Band}
    (uses : (band.fillStatement axes).Uses (fun _ => True) quote)
    (own : text ∈ band.errorLabel.toList) (present : text ≠ "") : quote text := by
  have given : Given.text band.errorLabel = some text := by
    simp [Given.text, Option.mem_toList.mp own, present]
  simp only [Band.fillStatement, given, register, Band.fill, Statement.Uses, Expr.uses_method,
    List.forall_mem_singleton, List.forall_mem_append] at uses
  simpa [labelArgument, given] using uses.2.2.2

/-- The statements of a series do quote its texts: a property of all that they quote is one of
these. -/
theorem Fragment.quote_of_drawn {series : Series} {statements : List Statement}
    (drawn : Fragment axes series statements)
    (uses : ∀ statement ∈ statements, statement.Uses (fun _ => True) quote)
    (own : text ∈ series.drawnTexts) (present : text ≠ "") : quote text := by
  cases drawn with
  | line trace values =>
      simp only [List.forall_mem_singleton, Statement.Uses, Expr.uses_method] at uses
      refine quote_of_colorArgument (fun item member => uses.2.2 item ?_) own
      exact List.mem_append_right _ (List.mem_append_left _ member)
  | scatter trace x y =>
      simp only [register, List.forall_mem_singleton, Statement.Uses, Expr.uses_method] at uses
      refine quote_of_colorArgument (fun item member => uses.2.2 item ?_) own
      exact List.mem_append_right _ (List.mem_append_left _ member)
  | bar bars positions heights =>
      obtain ⟨call, ticks⟩ := List.forall_mem_cons.mp uses
      rcases List.mem_append.mp own with color | category
      · rw [eq_named_of_mem_texts color] at call
        simp only [register, Statement.Uses, Expr.uses_method, List.forall_mem_singleton] at call
        have argument := call.2.2 (.named "color" (Color.named text).expr) (by simp)
        exact argument.2
      · exact quote_of_tickLabels ticks category
  | errorBand band x y errors =>
      simp only [List.forall_mem_append, List.forall_mem_cons] at uses
      obtain ⟨_, _, _, _, line, area, _⟩ := uses
      rcases List.mem_append.mp own with color | label
      · have named := eq_named_of_mem_texts color
        simp only [Statement.Uses, Expr.uses_method, List.forall_mem_append] at line
        have arguments := line.2.2.1.2
        rw [Band.colorArgument, named] at arguments
        exact quote_of_colorArgument arguments (named ▸ color)
      · exact quote_of_fillStatement area label present
  | matrix values =>
      cases hinton : values.hinton with
      | true => simp [drawnTexts, hinton] at own
      | false =>
          have map : values.colorMap = some text := by simpa [drawnTexts, hinton] using own
          have shown : axes.expr.Uses (fun _ => True) quote ∧ quote text := by
            simpa [Matrix.display, hinton, map] using uses
          exact shown.2

end Series

namespace Figure

variable {figure : Figure} {layout : Layout}

/-- The events of warning level are those about the texts that are checked. -/
theorem silent_iff (valid : figure.Valid layout) :
    (∀ event ∈ figure.compile.events, event.level ≠ .warn) ↔
      ∀ text ∈ figure.checkedTexts, Literal.isUnsafe text = false := by
  constructor
  · intro silent text checked
    rw [← Bool.not_eq_true]
    intro found
    have warned : .unsafeText text ∈ figure.compile.events := by
      simp [compile_of_valid valid, announcement, warnings, checked, found]
    exact silent _ warned rfl
  · intro safe event member
    have quiet : figure.warnings = [] := by simpa [warnings] using safe
    rw [compile_of_valid valid, announcement, quiet] at member
    simp only [List.nil_append, List.mem_append, List.mem_singleton] at member
    rcases member with (rfl | noted) | rfl
    · simp [Event.level]
    · obtain ⟨series, _, note⟩ := List.mem_flatMap.mp noted
      rw [eq_of_mem_notes note]
      decide
    · simp [Event.level]

theorem isUnsafe_of_quotes (checked : ∀ text ∈ figure.checkedTexts, Literal.isUnsafe text = false)
    (drawn : ∀ text ∈ figure.drawnTexts, Literal.isUnsafe text = false) {text : String}
    (quoted : figure.Quotes text) : Literal.isUnsafe text = false := by
  rcases quoted with one | one | rfl | harmless
  · exact checked text one
  · exact drawn text one
  · have path : Embeddable figure.outputPath := embeddable_outputPath fun name given =>
      checked name (mem_checkedTexts_of_outputName given)
    exact path.safe
  · exact harmless.isUnsafe_eq_false

/-- Every series is drawn, so that the texts it is drawn with are quoted somewhere in the script. -/
theorem safe_of_written (valid : figure.Valid layout)
    (safe : ∀ statement ∈ figure.written layout, statement.Safe) :
    ∀ text ∈ figure.drawnTexts, Literal.isUnsafe text = false := by
  intro text drawn
  obtain ⟨series, member, own⟩ := List.mem_flatMap.mp drawn
  have drawing : (figure.steps layout).map Step.series = figure.allSeries := series_steps
  obtain ⟨step, taken, rfl⟩ := List.mem_map.mp (drawing ▸ member)
  have safeFragment : ∀ statement ∈ step.fragment, statement.Safe := by
    intro statement inside
    have among : statement ∈ (figure.steps layout).flatMap Step.statements :=
      List.mem_flatMap.mpr ⟨step, taken, List.mem_append_right _ inside⟩
    exact safe statement (by simp [written, among])
  by_cases empty : text = ""
  · rw [empty]
    decide
  · have fragment := Series.Fragment.of_check (valid.checked _ (series_mem_of_step taken)) step.axes
    exact fragment.quote_of_drawn safeFragment own empty

/-- A figure that was compiled without a warning has a script whose texts are all safe, and whose
statements are therefore one line each, exactly when the texts are safe that its series are drawn
with and no warning covers. -/
theorem compile_without_warning_safe_iff {script : String}
    (compiled : figure.compile.result = .ok script)
    (silent : ∀ event ∈ figure.compile.events, event.level ≠ .warn) :
    ∃ layout statements, figure.Emits script layout statements ∧
      ((∀ statement ∈ statements, statement.Safe ∧ OneLine statement.text) ↔
        ∀ text ∈ figure.drawnTexts, Literal.isUnsafe text = false) := by
  obtain ⟨layout, valid, emits⟩ := emits_written compiled
  refine ⟨layout, _, emits, ?only, ?all⟩
  case only =>
    intro whole
    exact safe_of_written valid fun statement member => (whole statement member).1
  case all =>
    intro drawn statement member
    have safe : ∀ text, figure.Quotes text → Literal.isUnsafe text = false :=
      fun _ quoted => isUnsafe_of_quotes ((silent_iff valid).mp silent) drawn quoted
    have fills : ∀ text, figure.Quotes text → Fills .plain text ∧ OneLine text := by
      intro text quoted
      obtain ⟨unquoted, single⟩ := Literal.isUnsafe_eq_false.mp (safe text quoted)
      exact ⟨fills_plain unquoted, single⟩
    have uses := uses_written valid statement member
    exact ⟨uses.mono (fun _ _ => trivial) safe,
      Statement.oneLine_text (uses.mono (fun _ word => word) fills)⟩

/-- A Hinton diagram with a color map that its script does not name, and bars with safe texts. -/
def ignoredColorMap : Figure where
  title := some "weights"
  series :=
    [.matrix { values := [[1.0, -0.5]], colorMap := some "it's", hinton := true },
      .bar
        { values := some [2.0], categories := some (.labels ["first"]), color := some (.named "C2") }]

theorem ignoredColorMap_without_warning_safe :
    ∃ script, ignoredColorMap.compile.result = .ok script ∧
      (∀ event ∈ ignoredColorMap.compile.events, event.level ≠ .warn) ∧
      ∃ layout statements, ignoredColorMap.Emits script layout statements ∧
        ∀ statement ∈ statements, statement.Safe ∧ OneLine statement.text := by
  have valid : ignoredColorMap.Valid .single := validate_eq_ok_iff.mp rfl
  have compiled : ignoredColorMap.compile.result =
      .ok (Script.ofStatements (ignoredColorMap.written .single)).render :=
    compile_eq_ok_iff.mpr ⟨.single, valid, rfl⟩
  have silent : ∀ event ∈ ignoredColorMap.compile.events, event.level ≠ .warn :=
    (silent_iff valid).mpr (by decide)
  obtain ⟨layout, statements, emits, whole⟩ := compile_without_warning_safe_iff compiled silent
  exact ⟨_, compiled, silent, layout, statements, emits, whole.mpr (by decide)⟩

/-- A band whose error label has a quote and a line break. -/
def brokenErrorLabel : Figure where
  series :=
    [.errorBand { x := some [1.0], errors := some [0.5], errorLabel := some "it's\noff" }]

/-- The statement that the error label stands in. -/
def brokenArea : Statement :=
  Series.register (.method Axes.primary.expr "fill_between"
    [.name "x", .difference (.name "y") (.name "e"), .sum (.name "y") (.name "e"),
      .named "alpha" (.number Band.defaultAlpha), .named "label" (.quoted "it's\noff")])

/-- Its script was compiled without a warning, yet it quotes a text that is not safe, and a statement
of it is broken into two lines. -/
theorem brokenErrorLabel_breaks_without_warning :
    ∃ script layout statements, brokenErrorLabel.compile.result = .ok script ∧
      (∀ event ∈ brokenErrorLabel.compile.events, event.level ≠ .warn) ∧
      brokenErrorLabel.Emits script layout statements ∧
      (¬ ∀ statement ∈ statements, statement.Safe) ∧
      ¬ ∀ statement ∈ statements, OneLine statement.text := by
  have valid : brokenErrorLabel.Valid .single := validate_eq_ok_iff.mp rfl
  have compiled : brokenErrorLabel.compile.result =
      .ok (Script.ofStatements (brokenErrorLabel.written .single)).render :=
    compile_eq_ok_iff.mpr ⟨.single, valid, rfl⟩
  have silent : ∀ event ∈ brokenErrorLabel.compile.events, event.level ≠ .warn :=
    (silent_iff valid).mpr (by decide)
  have emits : brokenErrorLabel.Emits (Script.ofStatements (brokenErrorLabel.written .single)).render
      .single (brokenErrorLabel.written .single) :=
    ⟨validate_eq_ok_iff.mpr valid, statements_eq valid, rfl⟩
  refine ⟨_, _, _, compiled, silent, emits, ?quoted, ?broken⟩
  case quoted =>
    intro safe
    have label := safe_of_written valid safe "it's\noff" (by decide)
    exact absurd label (by decide)
  case broken =>
    intro lines
    have filled : (brokenErrorLabel.written .single)[21]? = some brokenArea := rfl
    exact absurd (lines _ (List.mem_of_getElem? filled)) (by decide +kernel)

end Figure

end FigureScript
