import FigureScript.Proofs.FileName
import FigureScript.Proofs.Figure.Compilation
import FigureScript.Proofs.Series.Vocabulary

namespace FigureScript

open Lexer

/-! # The vocabulary of figures

The names and texts of a script, phase by phase. The texts are those of the figure, the name of its
file, and constants that mean nothing in a literal.
-/

namespace Figure

variable {figure : Figure} {layout : Layout} {names : List String}

/-- All texts of a figure: those that are checked when it is compiled, and those of its series that
are not. -/
def texts (figure : Figure) : List String :=
  figure.checkedTexts ++ figure.allSeries.flatMap Series.texts

/-- The texts that its series quote besides their labels. -/
def drawnTexts (figure : Figure) : List String := figure.allSeries.flatMap Series.drawnTexts

/-- The texts that a script puts between quotes. -/
def Quotes (figure : Figure) (text : String) : Prop :=
  text ∈ figure.checkedTexts ∨ text ∈ figure.drawnTexts ∨ text = figure.outputPath ∨ Harmless text

theorem quotes_of_harmless {text : String} (harmless : Harmless text) : figure.Quotes text :=
  .inr (.inr (.inr harmless))

theorem Quotes.texts {text : String} (quoted : figure.Quotes text) :
    text ∈ figure.texts ∨ text = figure.outputPath ∨ Harmless text := by
  rcases quoted with checked | drawn | other
  · exact .inl (List.mem_append_left _ checked)
  · obtain ⟨series, member, own⟩ := List.mem_flatMap.mp drawn
    refine .inl (List.mem_append_right _ (List.mem_flatMap.mpr ⟨series, member, ?_⟩))
    exact series.drawnTexts_subset own
  · exact .inr other

theorem mem_checkedTexts_of_label {series : Series} (member : series ∈ figure.allSeries)
    {text : String} (label : text ∈ series.label.toList) : text ∈ figure.checkedTexts := by
  have shown : series.label = some text := Option.mem_toList.mp label
  have labels : some text ∈ figure.allSeries.map Series.label :=
    List.mem_map.mpr ⟨series, member, shown⟩
  exact List.mem_filterMap.mpr ⟨some text, List.mem_append_right _ labels, rfl⟩

theorem mem_checkedTexts_of_outputName {text : String} (given : text ∈ figure.outputName.toList) :
    text ∈ figure.checkedTexts := by
  have same : figure.outputName = some text := Option.mem_toList.mp given
  exact List.mem_filterMap.mpr ⟨some text, by simp [same], rfl⟩

theorem quotes_of_series {series : Series} (member : series ∈ figure.allSeries) {text : String}
    (quoted : series.Quotes text) : figure.Quotes text := by
  rcases quoted with label | other | harmless
  · exact .inl (mem_checkedTexts_of_label member label)
  · exact .inr (.inl (List.mem_flatMap.mpr ⟨series, member, other⟩))
  · exact quotes_of_harmless harmless

/-- A text that is left out when it is empty is one of the texts it is taken from. -/
theorem quotes_given (value : Option String)
    (checked : value ∈ [figure.title, figure.xAxis.label, figure.yAxis.label,
      figure.twin.bind fun twin => twin.yAxis.label, figure.outputName]) :
    ∀ text ∈ (Given.text value).toList, figure.Quotes text := by
  intro text member
  have same := Given.eq_some_of_text (Option.mem_toList.mp member)
  refine .inl (List.mem_filterMap.mpr ⟨some text, ?_, rfl⟩)
  exact List.mem_append_left _ (same ▸ checked)

/-! ## Before the drawing -/

theorem confined_preamble :
    Confined ["warnings", "simplefilter", "pylab", "TypeError", "e", "print", "str", "matplotlib",
      "use", "itertools", "seaborn", "sns", "set", "style", "set_context", "palette", "cycle",
      "color_palette", "lines"] figure.Quotes figure.preamble := by
  have token : Harmless figure.style.token := by
    unfold Style.token
    cases figure.style.dark <;> cases figure.style.grid <;> decide
  refine .intro fun word own => ?_
  simp only [List.forall_mem_cons] at own
  have fixed : ∀ statement ∈ imports, statement.Uses word figure.Quotes := by
    simp +decide [imports, quotes_of_harmless, own]
  have style : ∀ statement ∈ styleStatements figure.style, statement.Uses word figure.Quotes := by
    unfold styleStatements
    split
    · simp +decide [quotes_of_harmless, token, own]
    · simp
  simpa [preamble, own, or_imp, forall_and] using And.intro fixed style

theorem confined_axesCreation :
    Confined ["fig", "ax", "ax2", "axs", "subplots", "sharex", "sharey", "twinx",
      "set_size_inches", "forward"] figure.Quotes (figure.axesCreation layout) := by
  refine .intro fun word own => ?_
  simp only [List.forall_mem_cons] at own
  cases size : figure.size <;> cases layout <;>
    simp [axesCreation, singleAxes, Grid.creation, sizeStatements, size, own]

/-! ## Settings of axes -/

theorem confined_tickStatements (figure : Figure) {axes : Axes}
    (own : ["tick_params", "axis", "which", "labelsize"] ⊆ names)
    (handle : axes.variableName ∈ names) :
    Confined names figure.Quotes (figure.tickStatements axes) := by
  simp only [List.cons_subset, List.nil_subset, and_true] at own
  cases size : figure.tickLabelSize <;>
    simp +decide [tickStatements, size, TickSet.all, TickSet.name, Axes.expr, own, handle,
      quotes_of_harmless]

theorem confined_limitStatement (figure : Figure) {axes : Axes} (method : String) (axis : Axis)
    (own : method ∈ names) (handle : axes.variableName ∈ names) :
    Confined names figure.Quotes (limitStatement axes method axis) := by
  cases limits : axis.limits <;>
    simp [limitStatement, Axis.limitsExpr, limits, Axes.expr, own, handle]

theorem confined_textStatement {object method : String} {text : Option String}
    (quoted : ∀ value ∈ text.toList, figure.Quotes value)
    (own : [method, "fontsize"] ⊆ names) (handle : object ∈ names) :
    Confined names figure.Quotes (textStatement (.name object) method text) := by
  simp only [List.cons_subset, List.nil_subset, and_true] at own
  cases text with
  | none => exact .nil
  | some value =>
      have literal := quoted value (by simp)
      simp [textStatement, titleSize, own, handle, literal]

theorem confined_cellTitle (figure : Figure) (cell : Cell) :
    Confined ["ax", "set_title"] figure.Quotes (figure.cellTitle cell) := by
  unfold cellTitle
  split
  · rename_i only alone
    have occupant : only ∈ figure.occupants cell := alone ▸ List.mem_singleton_self only
    have member : only ∈ figure.allSeries :=
      List.mem_append_left _ (List.mem_filter.mp occupant).1
    split
    · rename_i label given
      have shown := Option.mem_toList.mpr (Given.eq_some_of_text given)
      have literal : figure.Quotes label := .inl (mem_checkedTexts_of_label member shown)
      simp +decide [Axes.expr, Axes.variableName, literal]
    · exact .nil
  · exact .nil

def cellNames : List String :=
  ["ax", "set_title", "tick_params", "axis", "which", "labelsize", "set_xlim", "set_ylim"]

theorem confined_cellStatements (figure : Figure) (cell : Cell) :
    Confined cellNames figure.Quotes (figure.cellStatements cell) := by
  simp only [cellStatements, limitStatements, Confined.append_iff]
  refine ⟨⟨?title, ?ticks⟩, ?xLimits, ?yLimits⟩
  case title => exact (confined_cellTitle figure cell).mono (by decide)
  case ticks => exact confined_tickStatements figure (by decide) (by decide)
  case xLimits => exact confined_limitStatement figure "set_xlim" _ (by decide) (by decide)
  case yLimits => exact confined_limitStatement figure "set_ylim" _ (by decide) (by decide)

/-! ## Drawing -/

theorem uses_selector {word quote : String → Prop} (shape : Grid) (cell : Cell)
    (axs : word "axs") : (shape.selector cell).Uses word quote := by
  rcases shape.selector_cases cell with ⟨positions, same⟩ | same
  · simp [same, Grid.axes, axs]
  · simp [same, Grid.axes, axs]

theorem confined_setup {step : Step} (member : step ∈ figure.steps layout) :
    Confined ("axs" :: cellNames) figure.Quotes step.setup := by
  rcases step_cases member with ⟨_, _, earlier, setup⟩ | ⟨_, _, setup⟩
  · cases layout with
    | grid shape =>
        rw [setup, bindCell_of_grid, Confined.cons_iff]
        refine ⟨⟨by decide, uses_selector shape step.series.cell (by decide)⟩, ?_⟩
        split
        · exact .nil
        · exact (confined_cellStatements figure step.series.cell).mono (List.subset_cons_self _ _)
    | single =>
        rw [setup, bindCell_of_plain rfl]
        exact .nil
    | twin =>
        rw [setup, bindCell_of_plain rfl]
        exact .nil
  · rw [setup]
    exact .nil

def fragmentNames : List String :=
  Series.drawingWords ++ ["lines", "ax", "ax2", "palette", "c", "x", "y", "e", "special"]

theorem names_subset (series : Series) (axes : Axes) : series.names axes ⊆ fragmentNames := by
  intro name member
  simp only [Series.names, List.mem_append, List.mem_cons, List.not_mem_nil, or_false] at member
  have others : ["lines", "ax", "ax2", "palette", "c", "x", "y", "e", "special"] ⊆ fragmentNames :=
    List.subset_append_right _ _
  rcases member with ((word | rfl | rfl) | palette) | own
  · exact List.mem_append_left _ word
  · exact others (by decide)
  · rcases axes.variableName_cases with same | same <;> exact others (by rw [same]; decide)
  · split at palette
    · rw [List.mem_singleton.mp palette]
      exact others (by decide)
    · exact absurd palette List.not_mem_nil
  · exact others (List.mem_append_right ["lines", "ax", "ax2", "palette"] (Series.locals_subset own))

theorem confined_fragment (valid : figure.Valid layout) {step : Step}
    (member : step ∈ figure.steps layout) :
    Confined fragmentNames figure.Quotes step.fragment := by
  have drawn := series_mem_of_step member
  exact (Series.Fragment.of_check (valid.checked _ drawn) step.axes).uses
    (names_subset step.series step.axes) fun _ quoted => quotes_of_series drawn quoted

theorem confined_drawing (valid : figure.Valid layout) :
    Confined ("axs" :: cellNames ++ fragmentNames) figure.Quotes
      ((figure.steps layout).flatMap Step.statements) := by
  refine .flatMap fun step member => Confined.append_iff.mpr ⟨?_, ?_⟩
  · exact (confined_setup member).mono (List.subset_append_left _ _)
  · exact (confined_fragment valid member).mono (List.subset_append_right _ _)

/-! ## Behind the drawing -/

theorem confined_legendStatements :
    Confined ["lgd", "ax", "ax2", "axs", "legend", "fontsize", "loc", "labels", "lines", "l",
      "get_label"] figure.Quotes (figure.legendStatements layout) := by
  refine .intro fun word own => ?_
  simp only [List.forall_mem_cons] at own
  unfold legendStatements
  split
  · cases layout with
    | single => simp [legendStatement, Legend.arguments, Axes.expr, Axes.variableName, own]
    | twin =>
        simp [legendStatement, collectLabels, Legend.arguments, Axes.expr, Axes.variableName, own]
    | grid shape => simp [legendStatement, Legend.arguments, uses_selector, own]
  · simp

theorem confined_sideText {x y : Float} {text : Option String} {direction : List Expr}
    (quoted : ∀ value ∈ text.toList, figure.Quotes value)
    (others : ∀ item ∈ direction, item.Uses (· ∈ names) figure.Quotes)
    (own : ["fig", "text", "fontsize", "ha", "va"] ⊆ names) :
    Confined names figure.Quotes (sideText x y text direction) := by
  simp only [List.cons_subset, List.nil_subset, and_true] at own
  cases text with
  | none => exact .nil
  | some value =>
      have literal := quoted value (by simp)
      simpa +decide [sideText, titleSize, own, literal, quotes_of_harmless] using others

theorem confined_gridTexts :
    Confined ["fig", "suptitle", "text", "fontsize", "ha", "va", "rotation"] figure.Quotes
      figure.gridTexts := by
  simp only [gridTexts, Confined.append_iff]
  refine ⟨⟨?title, ?x⟩, ?y⟩
  case title =>
    exact confined_textStatement (quotes_given figure.title (by simp)) (by decide) (by decide)
  case x =>
    exact confined_sideText (quotes_given figure.xAxis.label (by simp)) (by simp) (by decide)
  case y =>
    refine confined_sideText (quotes_given figure.yAxis.label (by simp)) ?_ (by decide)
    simp +decide [quotes_of_harmless]

/-- The names in the settings of a figure without subplots, apart from its second axis. -/
def axesNames : List String :=
  ["ax", "set_title", "set_xlabel", "set_ylabel", "fontsize", "tick_params", "axis", "which",
    "labelsize", "set_xlim", "set_ylim"]

theorem confined_axesTexts (own : axesNames ⊆ names)
    (twin : figure.twin.isSome = true → "ax2" ∈ names) :
    Confined names figure.Quotes figure.axesTexts := by
  have part : ∀ {some : List String}, some ⊆ axesNames → some ⊆ names :=
    fun inside => List.Subset.trans inside own
  simp only [axesTexts, limitStatements, Confined.append_iff]
  refine ⟨⟨⟨⟨⟨⟨⟨?title, ?x⟩, ?y⟩, ?second⟩, ?ticks⟩, ?twinTicks⟩, ?xLimits, ?yLimits⟩, ?twinLimits⟩
  case title =>
    exact confined_textStatement (quotes_given figure.title (by simp)) (part (by decide)) (own (by decide))
  case x =>
    exact confined_textStatement (quotes_given figure.xAxis.label (by simp)) (part (by decide))
      (own (by decide))
  case y =>
    exact confined_textStatement (quotes_given figure.yAxis.label (by simp)) (part (by decide))
      (own (by decide))
  case ticks => exact confined_tickStatements figure (part (by decide)) (own (by decide))
  case xLimits =>
    exact confined_limitStatement figure "set_xlim" _ (own (by decide)) (own (by decide))
  case yLimits =>
    exact confined_limitStatement figure "set_ylim" _ (own (by decide)) (own (by decide))
  case second =>
    cases second : figure.twin with
    | none => exact .nil
    | some axis =>
        exact confined_textStatement (quotes_given axis.yAxis.label (by simp [second]))
          (part (by decide)) (twin (by simp [second]))
  case twinTicks =>
    split
    · rename_i present
      exact confined_tickStatements figure (part (by decide)) (twin present)
    · exact .nil
  case twinLimits =>
    cases second : figure.twin with
    | none => exact .nil
    | some axis =>
        exact confined_limitStatement figure "set_ylim" _ (own (by decide))
          (twin (by simp [second]))

/-- The settings of the figure as a whole, whatever the layout. -/
theorem confined_configuration :
    Confined (["fig", "suptitle", "text", "ha", "va", "rotation", "ax2"] ++ axesNames) figure.Quotes
      (figure.configuration layout) := by
  unfold configuration
  split
  · exact confined_gridTexts.mono (by decide)
  · exact confined_axesTexts (List.subset_append_right _ _) fun _ => by decide

/-- The names in the statements that save and show a figure, apart from its legend. -/
def savingNames : List String :=
  ["fig", "savefig", "format", "bbox_extra_artists", "bbox_inches", "show", "block"]

theorem confined_postamble_of_legend (own : savingNames ⊆ names)
    (legend : figure.hasLabels = true → "lgd" ∈ names) :
    Confined names figure.Quotes figure.postamble := by
  have path : figure.Quotes figure.outputPath := .inr (.inr (.inl rfl))
  simp only [savingNames, List.cons_subset, List.nil_subset, and_true] at own
  cases labels : figure.hasLabels with
  | false =>
      cases shown : figure.showWindow <;>
        simp +decide [postamble, saveStatement, labels, shown, own, path, quotes_of_harmless]
  | true =>
      have lgd := legend labels
      cases tight : figure.tight <;> cases shown : figure.showWindow <;>
        simp +decide [postamble, saveStatement, labels, tight, shown, own, lgd, path,
          quotes_of_harmless]

theorem confined_postamble : Confined ("lgd" :: savingNames) figure.Quotes figure.postamble :=
  confined_postamble_of_legend (List.subset_cons_self _ _) fun _ => by decide

/-! ## Texts in literals -/

/-- The file name has no quote that the name it is made of does not have. -/
theorem quote_not_mem_figure {name : Option String}
    (unquoted : ∀ text ∈ name.toList, '\'' ∉ text.toList) :
    '\'' ∉ (FileName.figure name).toList := by
  intro member
  rcases FileName.mem_figure member with ⟨text, given, inside⟩ | fixed
  · exact unquoted text given inside
  · exact absurd fixed (by decide)

/-- Where no text of the figure has a quote, all literals of its script end where they should. -/
theorem fills_of_quotes (unquoted : ∀ text ∈ figure.texts, '\'' ∉ text.toList) {text : String}
    (quoted : figure.Quotes text) : Fills .plain text := by
  rcases quoted.texts with own | rfl | harmless
  · exact fills_plain (unquoted text own)
  · refine fills_plain (quote_not_mem_figure fun text member => unquoted text ?_)
    exact List.mem_append_left _ (mem_checkedTexts_of_outputName member)
  · exact fills_of_harmless harmless

theorem legible_fragment (valid : figure.Valid layout)
    (unquoted : ∀ text ∈ figure.texts, '\'' ∉ text.toList) {step : Step}
    (member : step ∈ figure.steps layout) :
    ∀ statement ∈ step.fragment, statement.Legible .plain :=
  (confined_fragment valid member).legible (fun _ quoted => fills_of_quotes unquoted quoted)
    (by decide)

/-- A script consists of words and of the texts that its figure quotes. -/
theorem uses_written (valid : figure.Valid layout) :
    ∀ statement ∈ figure.written layout, statement.Uses IsWord figure.Quotes := by
  simp only [written, List.mem_append, or_imp, forall_and]
  refine ⟨⟨⟨⟨⟨?preamble, ?creation⟩, ?drawing⟩, ?legends⟩, ?configuration⟩, ?postamble⟩
  case preamble => exact confined_preamble.uses_words (by decide)
  case creation => exact confined_axesCreation.uses_words (by decide)
  case drawing => exact (confined_drawing valid).uses_words (by decide)
  case legends => exact confined_legendStatements.uses_words (by decide)
  case configuration => exact confined_configuration.uses_words (by decide)
  case postamble => exact confined_postamble.uses_words (by decide)

theorem legible_written_of_fills {quoting : Quoting} (valid : figure.Valid layout)
    (fills : ∀ text, figure.Quotes text → Fills quoting text) :
    ∀ statement ∈ figure.written layout, statement.Legible quoting :=
  fun statement member => (uses_written valid statement member).mono (fun _ word => word) fills

theorem legible_written (valid : figure.Valid layout)
    (unquoted : ∀ text ∈ figure.texts, '\'' ∉ text.toList) :
    ∀ statement ∈ figure.written layout, statement.Legible .plain :=
  legible_written_of_fills valid fun _ quoted => fills_of_quotes unquoted quoted

end Figure

end FigureScript
