import FigureScript.Proofs.Script.Scope
import FigureScript.Proofs.Series.Drawing

namespace FigureScript

open Lexer

/-! # The vocabulary of series

Which names and texts the statements of a series consist of. Main statement: of the names that the
script generates they need the list of lines, their axes and, for a palette color, the palette; all
others they bind before they read them.
-/

def Color.texts : Color → List String
  | palette => []
  | named name => [name]

def Categories.texts : Categories → List String
  | numeric _ => []
  | labels names => names

theorem Given.eq_some_of_text {value : Option String} {text : String}
    (given : Given.text value = some text) : value = some text :=
  (Option.filter_eq_some_iff.mp given).1

theorem Axes.variableName_cases (axes : Axes) :
    axes.variableName = "ax" ∨ axes.variableName = "ax2" := by
  cases axes with
  | primary => exact .inl rfl
  | twin => exact .inr rfl
  | cell expression => exact .inl rfl

@[simp] theorem Axes.variableName_not_keyword (axes : Axes) : axes.variableName ∉ keywords := by
  rcases axes.variableName_cases with same | same <;> rw [same] <;> decide

namespace Series

/-- The texts of a series that can stand in its statements, besides its label. -/
def texts : Series → List String
  | line trace | scatter trace => trace.color.toList.flatMap Color.texts
  | bar bars =>
    bars.color.toList.flatMap Color.texts ++ bars.categories.toList.flatMap Categories.texts
  | errorBand band => band.color.toList.flatMap Color.texts ++ band.errorLabel.toList
  | matrix values => values.colorMap.toList

/-- Those of them that do stand there: a Hinton diagram does not name its color map. -/
def drawnTexts : Series → List String
  | matrix values => if values.hinton then [] else values.colorMap.toList
  | series => series.texts

theorem drawnTexts_subset (series : Series) : series.drawnTexts ⊆ series.texts := by
  cases series with
  | matrix values => cases hinton : values.hinton <;> simp [drawnTexts, texts, hinton]
  | line | scatter | bar | errorBand => exact List.Subset.refl _

/-- The names that a series binds for its own use. -/
def locals : Series → List String
  | errorBand band => (if band.color = some .palette then ["c"] else []) ++ ["x", "y", "e"]
  | matrix values => "x" :: if values.hinton then ["special"] else []
  | line _ | scatter _ | bar _ => []

/-- The names of methods, functions, arguments and modules in the statements of series. -/
def drawingWords : List String :=
  ["plot", "scatter", "bar", "barh", "fill_between", "matshow", "sca", "hinton", "array", "append",
    "next", "color", "label", "alpha", "cmap", "xerr", "yerr", "set_xticks", "set_yticks",
    "set_xticklabels", "set_yticklabels", "mpltools"]

def names (series : Series) (axes : Axes) : List String :=
  drawingWords ++ ["lines", axes.variableName] ++
    (if series.usesPalette then ["palette"] else []) ++ series.locals

def Quotes (series : Series) (text : String) : Prop :=
  text ∈ series.label.toList ∨ text ∈ series.drawnTexts ∨ Harmless text

variable {word quote : String → Prop}

theorem uses_color {color : Color} (own : ∀ name ∈ drawingWords, word name)
    (palette : color.isPalette = true → word "palette") (texts : ∀ text ∈ color.texts, quote text) :
    color.expr.Uses word quote := by
  simp only [drawingWords, List.forall_mem_cons] at own
  cases color with
  | palette => simp [Color.expr, own, palette rfl]
  | named name => exact texts name (by simp [Color.texts])

theorem uses_colorArgument {color : Option Color} (own : ∀ name ∈ drawingWords, word name)
    (palette : color.any Color.isPalette = true → word "palette")
    (texts : ∀ text ∈ color.toList.flatMap Color.texts, quote text) :
    ∀ item ∈ colorArgument color, item.Uses word quote := by
  cases color with
  | none => simp [colorArgument]
  | some color =>
      have value := uses_color own palette fun text member => texts text (by simpa using member)
      simp only [drawingWords, List.forall_mem_cons] at own
      simp [colorArgument, own, value]

theorem uses_labelArgument {label : Option String} (own : ∀ name ∈ drawingWords, word name)
    (texts : ∀ text ∈ label.toList, quote text) :
    ∀ item ∈ labelArgument label, item.Uses word quote := by
  cases given : Given.text label with
  | none => simp [labelArgument, given]
  | some text =>
      have value := texts text (by simp [Given.eq_some_of_text given])
      simp only [drawingWords, List.forall_mem_cons] at own
      simp [labelArgument, given, own, value]

theorem uses_options (trace : Trace) (own : ∀ name ∈ drawingWords, word name)
    (palette : trace.color.any Color.isPalette = true → word "palette")
    (label : ∀ text ∈ trace.label.toList, quote text)
    (texts : ∀ text ∈ trace.color.toList.flatMap Color.texts, quote text) :
    ∀ item ∈ trace.options, item.Uses word quote := by
  intro item member
  rcases List.mem_append.mp member with color | named
  · exact uses_colorArgument own palette texts item color
  · exact uses_labelArgument own label item named

theorem uses_errorArgument (bars : Bars) (own : ∀ name ∈ drawingWords, word name) :
    ∀ item ∈ bars.errorArgument, item.Uses word quote := by
  simp only [drawingWords, List.forall_mem_cons] at own
  cases errors : bars.errors with
  | none => simp [Bars.errorArgument, errors]
  | some values =>
      cases horizontal : bars.horizontal <;>
        simp [Bars.errorArgument, errors, horizontal, own]

theorem uses_tickLabels {bars : Bars} {axes : Axes} (own : ∀ name ∈ drawingWords, word name)
    (handle : word axes.variableName) (positions : List Float)
    (texts : ∀ text ∈ bars.categories.toList.flatMap Categories.texts, quote text) :
    ∀ statement ∈ bars.tickLabels axes positions, statement.Uses word quote := by
  simp only [drawingWords, List.forall_mem_cons] at own
  unfold Bars.tickLabels
  split
  · rename_i names categories
    have each : ∀ name ∈ names, quote name :=
      fun name member => texts name (by simpa [categories, Categories.texts] using member)
    cases horizontal : bars.horizontal <;>
      simpa [Bars.categoryAxis, Axes.expr, horizontal, own, handle] using each
  · simp

/-- Behind the statement that keeps a palette color, the color is read from its variable. -/
theorem uses_bandColor {band : Band} (own : ∀ name ∈ drawingWords, word name)
    (kept : band.color = some .palette → word "c")
    (texts : ∀ text ∈ band.color.toList.flatMap Color.texts, quote text) :
    ∀ item ∈ band.colorArgument, item.Uses word quote := by
  simp only [drawingWords, List.forall_mem_cons] at own
  cases color : band.color with
  | none => simp [Band.colorArgument, color, colorArgument]
  | some choice =>
      cases choice with
      | palette => simp [Band.colorArgument, color, own, kept color]
      | named name =>
          have value := texts name (by simp [color, Color.texts])
          simp [Band.colorArgument, color, colorArgument, Color.expr, own, value]

theorem uses_colorDraw {band : Band} (own : ∀ name ∈ drawingWords, word name)
    (kept : band.color = some .palette → word "c" ∧ word "palette") :
    ∀ statement ∈ band.colorDraw, statement.Uses word quote := by
  simp only [drawingWords, List.forall_mem_cons] at own
  unfold Band.colorDraw
  split
  · rename_i same
    simp [Color.expr, kept same, own]
  · simp

theorem uses_fillStatement {band : Band} {axes : Axes} (own : ∀ name ∈ drawingWords, word name)
    (handle : word axes.variableName) (known : ∀ name ∈ ["lines", "x", "y", "e"], word name)
    (color : ∀ item ∈ band.colorArgument, item.Uses word quote)
    (label : ∀ text ∈ band.errorLabel.toList, quote text) :
    (band.fillStatement axes).Uses word quote := by
  have named := uses_labelArgument own label
  simp only [drawingWords, List.forall_mem_cons] at own known
  have fill : (band.fill axes).Uses word quote := by
    simpa [Band.fill, Axes.expr, handle, own, known, or_imp, forall_and]
      using And.intro color named
  unfold Band.fillStatement
  split
  · simp [register, own, known, fill]
  · exact fill

/-- The statements of a series consist of its names and texts. -/
theorem Fragment.uses {axes : Axes} {series : Series} {statements : List Statement}
    (drawn : Fragment axes series statements) (words : ∀ name ∈ series.names axes, word name)
    (quotes : ∀ text, series.Quotes text → quote text) :
    ∀ statement ∈ statements, statement.Uses word quote := by
  simp only [names, List.forall_mem_append, List.forall_mem_cons] at words
  obtain ⟨⟨⟨own, lines, handle, _⟩, shared⟩, locals⟩ := words
  simp only [Quotes, or_imp, forall_and] at quotes
  obtain ⟨label, texts, harmless⟩ := quotes
  have palette : series.usesPalette = true → word "palette" :=
    fun uses => by simpa [uses] using shared
  cases drawn with
  | line trace values =>
      have options := uses_options trace own palette label texts
      simp only [drawingWords, List.forall_mem_cons] at own
      simpa [Axes.expr, handle, own, lines, or_imp, forall_and] using options
  | scatter trace x y =>
      have options := uses_options trace own palette label texts
      simp only [drawingWords, List.forall_mem_cons] at own
      simpa [register, Axes.expr, handle, own, lines] using options
  | bar bars positions heights =>
      have errors : ∀ item ∈ bars.errorArgument, item.Uses word quote :=
        uses_errorArgument bars own
      have named : ∀ item ∈ labelArgument bars.label, item.Uses word quote :=
        uses_labelArgument own label
      have ticks := uses_tickLabels own handle positions
        fun text member => texts text (List.mem_append_right _ member)
      have color : (bars.color.getD .blue).expr.Uses word quote := by
        cases explicit : bars.color with
        | none => exact harmless _ (by decide)
        | some color =>
            refine uses_color own (fun drawn => palette ?_) fun text member => texts text ?_
            · simpa [usesPalette, Series.color, explicit] using drawn
            · have own : text ∈ color.texts := by simpa [explicit] using member
              simp [drawnTexts, Series.texts, explicit, own]
      simp only [drawingWords, List.forall_mem_cons] at own
      have method : word bars.drawMethod := by
        cases horizontal : bars.horizontal <;> simp [Bars.drawMethod, horizontal, own]
      simpa [register, Axes.expr, handle, own, lines, method, color, or_imp, forall_and]
        using And.intro (And.intro errors named) ticks
  | errorBand band x y errors =>
      have kept : band.color = some .palette → word "c" ∧ word "palette" := by
        intro same
        refine ⟨locals "c" (by simp [Series.locals, same]), palette ?_⟩
        rw [usesPalette, Series.color, same]
        rfl
      have known : ∀ name ∈ ["lines", "x", "y", "e"], word name :=
        List.forall_mem_cons.mpr
          ⟨lines, fun name member => locals name (List.mem_append_right _ member)⟩
      have color := uses_bandColor own (fun same => (kept same).1)
        fun text member => texts text (List.mem_append_left _ member)
      have named : ∀ item ∈ labelArgument band.label, item.Uses word quote :=
        uses_labelArgument own label
      have picked : ∀ statement ∈ band.colorDraw, statement.Uses word quote :=
        uses_colorDraw own kept
      have area := uses_fillStatement own handle known color
        fun text member => texts text (List.mem_append_right _ member)
      simp only [drawingWords, List.forall_mem_cons] at own known
      simpa [Band.bindArray, Axes.expr, handle, own, known, area, or_imp, forall_and]
        using And.intro picked (And.intro color named)
  | matrix values =>
      have array : word "x" := locals "x" (by simp [Series.locals])
      simp only [drawingWords, List.forall_mem_cons] at own
      cases hinton : values.hinton with
      | false =>
          have map : quote (values.colorMap.getD Matrix.defaultColorMap) := by
            cases chosen : values.colorMap with
            | none => exact harmless _ (by decide)
            | some name => exact texts name (by simp [drawnTexts, hinton, chosen])
          simp [Matrix.display, hinton, Axes.expr, handle, own, array, map]
      | true =>
          have special : word "special" := locals "special" (by simp [Series.locals, hinton])
          simp [Matrix.display, hinton, Axes.expr, handle, own, array, special]

/-! ## Scope -/

section

variable {axes : Axes} {series : Series} {statements : List Statement} {bound : List String}

/-- The names of a series are in scope with the list of lines, the axes, the palette where it is
used, and the variables of the series itself. -/
theorem known_names (lines : "lines" ∈ bound) (onAxes : axes.variableName ∈ bound)
    (palette : series.usesPalette = true → "palette" ∈ bound)
    (locals : ∀ name ∈ series.locals, name ∈ bound) :
    ∀ name ∈ series.names axes, Known bound name := by
  have apart : ∀ name ∈ drawingWords, name ∉ generatedNames := by decide
  intro name member generated
  simp only [names, List.mem_append, List.mem_cons, List.not_mem_nil, or_false] at member
  rcases member with ((own | rfl | rfl) | shared) | own
  · exact absurd generated (apart name own)
  · exact lines
  · exact onAxes
  · cases uses : series.usesPalette with
    | true => simp [uses] at shared; exact shared ▸ palette uses
    | false => simp [uses] at shared
  · exact locals name own

theorem binds_colorDraw (band : Band) :
    band.colorDraw.flatMap Statement.binds = if band.color = some .palette then ["c"] else [] := by
  cases color : band.color with
  | none => simp [Band.colorDraw, color]
  | some choice => cases choice <;> simp +decide [Band.colorDraw, color]

theorem inScope_colorDraw (band : Band)
    (palette : (errorBand band).usesPalette = true → "palette" ∈ bound) :
    Scoped bound band.colorDraw := by
  unfold Band.colorDraw
  split
  · rename_i same
    have known : "palette" ∈ bound := palette (by rw [usesPalette, Series.color, same]; rfl)
    exact Scoped.assign .nil (by simp +decide [Color.expr, Known, known]) (by decide)
  · exact .nil

/-- The statements of a series need the list of lines, their axes and, for a palette color, the
palette. All else is bound where it is needed. -/
theorem Fragment.inScope (drawn : Fragment axes series statements) (lines : "lines" ∈ bound)
    (onAxes : axes.variableName ∈ bound)
    (palette : series.usesPalette = true → "palette" ∈ bound) : Scoped bound statements := by
  have uses : ∀ {names : List String}, (∀ name ∈ series.names axes, Known names name) →
      ∀ statement ∈ statements, statement.Uses (Known names) fun _ => True :=
    fun known => drawn.uses known fun _ _ => trivial
  have free : (∀ name ∈ series.locals, name ∈ bound) → Scoped bound statements :=
    fun unbound => .of_uses (uses (known_names lines onAxes palette unbound))
  cases drawn with
  | line trace values => exact free (by simp [locals])
  | scatter trace x y => exact free (by simp [locals])
  | bar bars positions heights => exact free (by simp [locals])
  | errorBand band x y errors =>
      -- The names in scope where the line and the area are drawn.
      let filled := "e" :: "y" :: "x" :: (band.colorDraw.flatMap Statement.binds ++ bound)
      have known : ∀ name ∈ (Series.errorBand band).names axes, Known filled name := by
        refine known_names (by simp [filled, lines]) (by simp [filled, onAxes])
          (fun uses => by simp [filled, palette uses]) ?_
        simp only [locals, filled, binds_colorDraw]
        grind
      have shown : Scoped filled [_, band.fillStatement axes] :=
        .of_uses fun statement member => uses known statement
          (List.mem_append_right _ (.tail _ (.tail _ (.tail _ member))))
      have array : ∀ {names : List String} {values : List Float},
          Expr.Uses (Known names) (fun _ => True) (.call (.name "array") [.numbers values]) := by
        simp +decide [Known]
      refine (inScope_colorDraw band palette).append ?_
      exact .assign (.assign (.assign shown array (by decide)) array (by decide)) array (by decide)
  | matrix values =>
      have array : Expr.Uses (Known bound) (fun _ => True)
          (.call (.name "array") [.numberRows values.values]) := by simp +decide [Known]
      refine .assign ?_ array (by decide)
      cases hinton : values.hinton with
      | false =>
          simp only [Matrix.display, hinton]
          refine .use .nil ?_
          simp +decide [Axes.expr, Known, onAxes]
      | true =>
          simp only [Matrix.display, hinton, if_true]
          refine .bind (.use (.use .nil ?_) ?_) rfl
          · simp +decide [Known]
          · simp +decide [Axes.expr, Known, onAxes]

theorem locals_subset : series.locals ⊆ ["c", "x", "y", "e", "special"] := by
  cases series with
  | line trace | scatter trace | bar bars => exact List.nil_subset _
  | errorBand band => by_cases kept : band.color = some .palette <;> simp [locals, kept]
  | matrix values => cases hinton : values.hinton <;> simp [locals, hinton]

/-- A series binds the variables of its own and nothing else. -/
theorem Fragment.binds_eq (drawn : Fragment axes series statements) :
    statements.flatMap Statement.binds = series.locals := by
  cases drawn with
  | line trace values => simp +decide [locals]
  | scatter trace x y => simp +decide [register, locals]
  | bar bars positions heights =>
      have ticks : (bars.tickLabels axes positions).flatMap Statement.binds = [] := by
        unfold Bars.tickLabels
        split <;> simp [Axes.expr]
      simp +decide [register, locals, ticks]
  | errorBand band x y errors =>
      have area : (band.fillStatement axes).binds = [] := by
        unfold Band.fillStatement
        split <;> simp +decide [register, Band.fill, Axes.expr]
      simp +decide [Band.bindArray, binds_colorDraw, area, locals]
  | matrix values =>
      cases hinton : values.hinton <;> simp +decide [Matrix.display, hinton, Axes.expr, locals]

/-- Of the variables for axes the statements of a series read only the one they are given. -/
theorem Fragment.reads_axes (drawn : Fragment axes series statements) {statement : Statement}
    (member : statement ∈ statements) {name : String} (handle : name ∈ ["ax", "ax2", "axs"])
    (read : name ∈ statement.reads) : name = axes.variableName := by
  have generated : ∀ one ∈ ["ax", "ax2", "axs"], one ∈ generatedNames ∧ one ∉ drawingWords ∧
      one ∉ ["lines", "palette"] ∧ one ∉ ["c", "x", "y", "e", "special"] := by decide
  obtain ⟨known, unworded, unshared, unbound⟩ := generated name handle
  have used : statement.Uses (· ∈ series.names axes) series.Quotes :=
    drawn.uses (fun _ word => word) (fun _ quote => quote) statement member
  have present := used.words (reads_subset_words read) known
  simp only [names, List.mem_append, List.mem_cons, List.not_mem_nil, or_false] at present unshared
  rcases present with ((word | lines | own) | palette) | own
  · exact absurd word unworded
  · exact absurd (.inl lines) unshared
  · exact own
  · split at palette
    · exact absurd (.inr (List.mem_singleton.mp palette)) unshared
    · exact absurd palette List.not_mem_nil
  · exact absurd (locals_subset own) unbound

end

end Series

end FigureScript
