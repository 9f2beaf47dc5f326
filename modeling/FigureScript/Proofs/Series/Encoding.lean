import FigureScript.Proofs.Figure.Numbers
import FigureScript.Proofs.Script.Readability
import FigureScript.Proofs.Series.Distinct

namespace FigureScript

open Lexer Binary64

/-! # Series are encoded faithfully

Nothing that is drawn of a series is lost in its lines. Main statement: two series without quotes in
their texts are written as the same lines exactly when they have the same normal form.
-/

namespace Expr

theorem simple_numbers {values : List Float} (each : ∀ value ∈ values, IsNumber value) :
    (numbers values).Simple :=
  .list (List.forall_mem_map.mpr fun value member => .number (each value member))

theorem simple_numberRows {rows : List (List Float)}
    (each : ∀ value ∈ rows.flatten, IsNumber value) : (numberRows rows).Simple :=
  .list (List.forall_mem_map.mpr fun _ member =>
    simple_numbers fun value inside => each value (List.mem_flatten_of_mem member inside))

theorem simple_quotedList (values : List String) : (quotedList values).Simple :=
  .list (List.forall_mem_map.mpr fun value _ => .quoted value)

theorem simple_optional {parameter : String} {value : Option Expr} (isName : IsName parameter)
    (simple : ∀ item ∈ value, item.Simple) : ∀ item ∈ optional parameter value, item.Simple := by
  cases value with
  | none => simp [optional]
  | some value => simpa [optional] using Simple.named isName (simple value rfl)

theorem simple_color (color : Color) : color.expr.Simple := by
  cases color with
  | palette => exact .call (by decide) (by simpa using Simple.name (by decide))
  | named name => exact .quoted name

end Expr

theorem Axes.isName_variableName (axes : Axes) : Expr.IsName axes.variableName := by
  rcases axes.variableName_cases with same | same <;> rw [same] <;> decide

namespace Series.NormalForm

variable {axes : Axes}

/-- All numbers that are written. -/
def numbers : NormalForm → List Float
  | line x y _ _ => x.getD [] ++ y
  | scatter x y _ _ => x ++ y
  | bar positions heights width _ errors _ _ _ =>
    positions ++ heights ++ [width] ++ errors.getD []
  | errorBand values alpha _ _ _ => values.x ++ values.y ++ values.errors ++ [alpha]
  | matrix values _ => values.flatten

theorem simple_axes : axes.expr.Simple := .name axes.isName_variableName

theorem simple_method (field : String) {items : List Expr} (simple : ∀ item ∈ items, item.Simple) :
    (Expr.method axes.expr field items).Simple :=
  .method axes.isName_variableName simple

theorem simple_evaluate (field : String) {items : List Expr}
    (simple : ∀ item ∈ items, item.Simple) :
    (Statement.evaluate (.method axes.expr field items)).Simple :=
  .method (simple_method field simple)

theorem simple_register {call : Expr} (simple : call.Simple) : (register call).Simple :=
  .method (.method (by decide) (by simpa using simple))

theorem simple_label (label : Option String) :
    ∀ item ∈ Expr.optional "label" (label.map .quoted), item.Simple := by
  refine Expr.simple_optional (by decide) fun item member => ?_
  obtain ⟨text, _, rfl⟩ := Option.map_eq_some_iff.mp member
  exact .quoted text

theorem simple_options (color : Option Color) {expr : Color → Expr}
    (simple : ∀ color, (expr color).Simple) (label : Option String) :
    ∀ item ∈ options (color.map expr) label, item.Simple := by
  refine List.forall_mem_append.mpr ⟨Expr.simple_optional (by decide) ?_, simple_label label⟩
  intro item member
  obtain ⟨color, _, rfl⟩ := Option.map_eq_some_iff.mp member
  exact simple color

theorem simple_bandColor (color : Color) : (bandColor color).Simple := by
  cases color with
  | palette => exact .name (by decide)
  | named name => exact .quoted name

theorem simple_bindArray (name : String) {values : List Float}
    (each : ∀ value ∈ values, IsNumber value) : (Band.bindArray name values).Simple :=
  .assign name (.call (by decide) (by simpa using Expr.simple_numbers each))

theorem simple_tickLabels (axis : String) {positions : List Float}
    (each : ∀ value ∈ positions, IsNumber value) (names : Option (List String)) :
    ∀ statement ∈ tickLabels axes axis positions names, statement.Simple := by
  cases names with
  | none => simp [tickLabels]
  | some names =>
      simp only [tickLabels, List.forall_mem_cons]
      refine ⟨simple_evaluate _ ?_, simple_evaluate _ ?_, List.forall_mem_nil _⟩
      · simpa using Expr.simple_numbers each
      · simpa using Expr.simple_quotedList names

theorem simple_fill {alpha : Float} (isNumber : IsNumber alpha) (color : Option Color)
    (errorLabel : Option String) : (fill axes alpha color errorLabel).Simple := by
  have shaded := simple_options color simple_bandColor errorLabel
  have simple : (area axes alpha color errorLabel).Simple := by
    refine simple_method "fill_between" (List.forall_mem_append.mpr ⟨?_, shaded⟩)
    simp only [List.forall_mem_cons]
    exact ⟨.name (by decide), .difference (by decide), .sum (by decide),
      .named (by decide) (.number isNumber), List.forall_mem_nil _⟩
  cases errorLabel with
  | none => exact .method simple
  | some text => exact simple_register simple

theorem simple_display (colorMap : Option String) :
    ∀ statement ∈ display axes colorMap, statement.Simple := by
  have matrix : (Expr.name "x").Simple := .name (by decide)
  cases colorMap with
  | none =>
      simp only [display, List.forall_mem_cons]
      refine ⟨.importFrom _ _, .call (.call (by decide) ?_), .method (.method (by decide) ?_),
        List.forall_mem_nil _⟩
      · simpa using simple_axes
      · simpa using matrix
  | some name =>
      have named : (Expr.named "cmap" (.quoted name)).Simple := .named (by decide) (.quoted name)
      simp only [display, List.forall_mem_cons]
      exact ⟨simple_evaluate "matshow" (by simpa using And.intro matrix named), List.forall_mem_nil _⟩

/-- All statements can be read back when all numbers can. -/
theorem simple_statements (form : NormalForm) (numbers : ∀ value ∈ form.numbers, IsNumber value)
    (axes : Axes) : ∀ statement ∈ form.statements axes, statement.Simple := by
  cases form with
  | line x y color label =>
      have lists : ∀ item ∈ (x.toList ++ [y]).map Expr.numbers, item.Simple := by
        refine List.forall_mem_map.mpr fun values member => Expr.simple_numbers fun value inside => ?_
        refine numbers value (List.mem_append.mpr ?_)
        rcases List.mem_append.mp member with given | same
        · exact .inl (by simpa [Option.mem_toList.mp given] using inside)
        · exact .inr (List.mem_singleton.mp same ▸ inside)
      have options := simple_options color Expr.simple_color label
      refine List.forall_mem_singleton.mpr (.extend "lines" (simple_method "plot" ?_))
      exact List.forall_mem_append.mpr ⟨lists, options⟩
  | scatter x y color label =>
      obtain ⟨xs, ys⟩ := List.forall_mem_append.mp numbers
      have options := simple_options color Expr.simple_color label
      refine List.forall_mem_singleton.mpr (simple_register (simple_method "scatter" ?_))
      refine List.forall_mem_append.mpr ⟨?_, options⟩
      simpa using And.intro (Expr.simple_numbers xs) (Expr.simple_numbers ys)
  | bar positions heights width horizontal errors color names label =>
      simp only [NormalForm.numbers, List.forall_mem_append, List.forall_mem_singleton] at numbers
      obtain ⟨⟨⟨first, second⟩, third⟩, spans⟩ := numbers
      refine List.forall_mem_cons.mpr
        ⟨simple_register (simple_method _ ?_), simple_tickLabels _ first names⟩
      have errorName : Expr.IsName (if horizontal then "xerr" else "yerr") := by
        cases horizontal <;> decide
      refine List.forall_mem_append.mpr ⟨List.forall_mem_append.mpr ⟨?_, ?_⟩, simple_label label⟩
      · simp only [List.forall_mem_cons]
        exact ⟨Expr.simple_numbers first, Expr.simple_numbers second, .number third,
          .named (by decide) (Expr.simple_color color), List.forall_mem_nil _⟩
      · refine Expr.simple_optional errorName fun item member => ?_
        obtain ⟨values, given, rfl⟩ := Option.map_eq_some_iff.mp member
        exact Expr.simple_numbers fun value inside => spans value (by simpa [given] using inside)
  | errorBand values alpha color label errorLabel =>
      simp only [NormalForm.numbers, List.forall_mem_append, List.forall_mem_singleton] at numbers
      obtain ⟨⟨⟨first, second⟩, third⟩, isNumber⟩ := numbers
      have options := simple_options color simple_bandColor label
      refine List.forall_mem_append.mpr ⟨?_, ?_⟩
      · -- Only a palette color is kept first, in a statement of its own.
        split
        · simpa using Statement.Simple.assign "c" (Expr.simple_color .palette)
        · exact List.forall_mem_nil _
      · simp only [List.forall_mem_cons]
        refine ⟨simple_bindArray "x" first, simple_bindArray "y" second, simple_bindArray "e" third,
          .extend "lines" (simple_method "plot" ?_), simple_fill isNumber color errorLabel,
          List.forall_mem_nil _⟩
        refine List.forall_mem_append.mpr ⟨?_, options⟩
        simp only [List.forall_mem_cons]
        exact ⟨.name (by decide), .name (by decide), List.forall_mem_nil _⟩
  | matrix values colorMap =>
      refine List.forall_mem_cons.mpr ⟨.assign "x" (.call (by decide) ?_), simple_display colorMap⟩
      simpa using Expr.simple_numberRows numbers

end Series.NormalForm

/-! ## Numbers and texts of a series -/

theorem Given.mem_of_list {α : Type} {values : Option (List α)} {items : List α} {item : α}
    (given : Given.list values = some items) (member : item ∈ items) : item ∈ values.getD [] := by
  rw [(Given.list_eq_some_iff.mp given).1]
  exact member

theorem Trace.isNumber_points {trace : Trace} {points : Points}
    (numbers : ∀ value ∈ trace.numbers, IsNumber value) (found : trace.points = .ok points) :
    ∀ value ∈ points.x.getD [] ++ points.y, IsNumber value := by
  obtain ⟨xs, ys⟩ := List.forall_mem_append.mp numbers
  rcases points_cases found with ⟨x, given, first, second, _⟩ | ⟨absent, first | second⟩
  · refine List.forall_mem_append.mpr ⟨fun value member => ?_, fun value member => ?_⟩
    · exact xs value (Given.mem_of_list first (by simpa [given] using member))
    · exact ys value (Given.mem_of_list second member)
  · simpa [absent] using fun value member => xs value (Given.mem_of_list first member)
  · simpa [absent] using fun value member => ys value (Given.mem_of_list second member)

theorem Series.isNumber_ordinal (count : Nat) : ∀ value ∈ ordinal count, IsNumber value :=
  List.forall_mem_map.mpr fun position _ => isNumber_ofNat position

theorem Bars.isNumber_positions {bars : Bars} (numbers : ∀ value ∈ bars.numbers, IsNumber value)
    (heights : List Float) : ∀ value ∈ bars.positions heights, IsNumber value := by
  simp only [Bars.numbers, List.forall_mem_append] at numbers
  rcases categories : bars.categories with _ | positions | names
  · simpa [Bars.positions, categories] using Series.isNumber_ordinal _
  · simpa [Bars.positions, categories, Categories.numbers] using numbers.1.1.2
  · simpa [Bars.positions, categories] using Series.isNumber_ordinal _

theorem Bars.isNumber_effectiveWidth {bars : Bars}
    (numbers : ∀ value ∈ bars.width, IsNumber value) : IsNumber bars.effectiveWidth := by
  have one : IsNumber (Binary64.ofNat 1) := isNumber_ofNat 1
  unfold effectiveWidth
  split
  · rename_i width given
    split
    · exact numbers width given
    · exact one
  · exact one

theorem Band.isNumber_values {band : Band} {values : BandValues}
    (numbers : ∀ value ∈ band.numbers, IsNumber value) (found : band.values = .ok values) :
    ∀ value ∈ values.x ++ values.y ++ values.errors, IsNumber value := by
  simp only [Band.numbers, List.forall_mem_append] at numbers ⊢
  obtain ⟨⟨⟨xs, ys⟩, spans⟩, _⟩ := numbers
  obtain ⟨errors, _, center⟩ := values_cases found
  have third : ∀ value ∈ values.errors, IsNumber value :=
    fun value member => spans value (by simpa [errors] using member)
  rcases center with ⟨first, second, _⟩ | ⟨moved, index⟩
  · exact ⟨⟨fun value member => xs value (Given.mem_of_list first member),
      fun value member => ys value (Given.mem_of_list second member)⟩, third⟩
  · exact ⟨⟨index ▸ Series.isNumber_ordinal _,
      fun value member => xs value (Given.mem_of_list moved member)⟩, third⟩

namespace Series

variable {series other : Series}

/-- What is filled in is a number, so a form has no value that is none unless its series has. -/
theorem isNumber_normalForm {form : NormalForm} (numbers : ∀ value ∈ series.numbers, IsNumber value)
    (found : series.normalForm = .ok form) : ∀ value ∈ form.numbers, IsNumber value := by
  cases series with
  | line trace =>
      obtain ⟨points, drawn, rfl⟩ := Fallible.map_eq_ok_iff.mp found
      exact Trace.isNumber_points numbers drawn
  | scatter trace =>
      obtain ⟨points, drawn, rfl⟩ := Fallible.map_eq_ok_iff.mp found
      obtain ⟨xs, ys⟩ := List.forall_mem_append.mp (Trace.isNumber_points numbers drawn)
      refine List.forall_mem_append.mpr ⟨?_, ys⟩
      cases given : points.x with
      | none => exact isNumber_ordinal _
      | some x => simpa [given] using xs
  | bar bars =>
      obtain ⟨checked, found⟩ := Fallible.then_eq_ok_iff.mp found
      obtain ⟨heights, drawn, same⟩ := Fallible.bind_eq_ok_iff.mp found
      cases same
      have positions := Bars.isNumber_positions numbers heights
      simp only [Series.numbers, Bars.numbers, List.forall_mem_append] at numbers
      obtain ⟨⟨⟨values, _⟩, spans⟩, widths⟩ := numbers
      simp only [NormalForm.numbers, List.forall_mem_append, List.forall_mem_singleton]
      refine ⟨⟨⟨positions, fun value member => values value ?_⟩, ?_⟩, spans⟩
      · exact Given.mem_of_list (Bars.heights_eq_ok_iff.mp drawn) member
      · exact Bars.isNumber_effectiveWidth fun value given =>
          widths value (Option.mem_toList.mpr given)
  | errorBand band =>
      obtain ⟨values, drawn, rfl⟩ := Fallible.map_eq_ok_iff.mp found
      refine List.forall_mem_append.mpr
        ⟨Band.isNumber_values numbers drawn, List.forall_mem_singleton.mpr ?_⟩
      have alphas : ∀ alpha ∈ band.alpha, IsNumber alpha := fun alpha given =>
        numbers alpha (List.mem_append_right _ (Option.mem_toList.mpr given))
      cases given : band.alpha with
      | none => exact (by decide : IsNumber Band.defaultAlpha)
      | some alpha => exact alphas alpha given
  | matrix values =>
      obtain ⟨_, _, rfl⟩ := Fallible.map_eq_ok_iff.mp found
      exact numbers

theorem isWord_names (series : Series) (axes : Axes) : ∀ name ∈ series.names axes, IsWord name := by
  have locals : ∀ name ∈ series.locals, IsWord name := fun name member =>
    (by decide : ∀ name ∈ ["c", "x", "y", "e", "special"], IsWord name) name (locals_subset member)
  have handle : IsWord axes.variableName := by
    rcases axes.variableName_cases with same | same <;> rw [same] <;> decide
  simp only [names, List.forall_mem_append, List.forall_mem_cons]
  refine ⟨⟨⟨by decide, by decide, handle, List.forall_mem_nil _⟩, ?_⟩, locals⟩
  split
  · decide
  · exact List.forall_mem_nil _

theorem legible_drawn (checked : series.check = .ok ())
    (unquoted : ∀ text ∈ series.label.toList ++ series.texts, '\'' ∉ text.toList) (axes : Axes) :
    ∀ statement ∈ series.drawn axes, statement.Legible .plain := by
  refine (Fragment.of_check checked axes).uses (series.isWord_names axes) fun text quoted => ?_
  rcases quoted with label | own | harmless
  · exact fills_plain (unquoted text (List.mem_append_left _ label))
  · exact fills_plain (unquoted text (List.mem_append_right _ (series.drawnTexts_subset own)))
  · exact fills_of_harmless harmless

/-- Two series that can be drawn, without quotes in their texts and with numbers alone in their lists,
are written as the same lines exactly when they have the same normal form. -/
theorem lines_eq_iff_normalForm_eq (checked : series.check = .ok ())
    (otherChecked : other.check = .ok ())
    (numbers : ∀ value ∈ series.numbers, IsNumber value)
    (otherNumbers : ∀ value ∈ other.numbers, IsNumber value)
    (unquoted : ∀ text ∈ series.label.toList ++ series.texts, '\'' ∉ text.toList)
    (otherUnquoted : ∀ text ∈ other.label.toList ++ other.texts, '\'' ∉ text.toList)
    (axes : Axes) (script : Script) :
    ∃ form otherForm lines otherLines,
      series.normalForm = .ok form ∧ other.normalForm = .ok otherForm ∧
        (series.render axes script).result = .ok ⟨script.lines ++ lines⟩ ∧
        (other.render axes script).result = .ok ⟨script.lines ++ otherLines⟩ ∧
        (lines = otherLines ↔ form = otherForm) := by
  obtain ⟨form, found, drawn⟩ := exists_normalForm checked
  obtain ⟨otherForm, otherFound, otherDrawn⟩ := exists_normalForm otherChecked
  refine ⟨form, otherForm, (series.drawn axes).map Statement.text,
    (other.drawn axes).map Statement.text, found, otherFound,
    result_render_of_check checked axes script, result_render_of_check otherChecked axes script,
    fun same => ?_, ?_⟩
  · have readable : ∀ statement ∈ series.drawn axes, statement.Readable := fun statement member =>
      ⟨form.simple_statements (isNumber_normalForm numbers found) axes statement (drawn axes ▸ member),
        legible_drawn checked unquoted axes statement member⟩
    have otherReadable : ∀ statement ∈ other.drawn axes, statement.Readable :=
      fun statement member =>
        ⟨otherForm.simple_statements (isNumber_normalForm otherNumbers otherFound) axes statement
          (otherDrawn axes ▸ member), legible_drawn otherChecked otherUnquoted axes statement member⟩
    have statements := Statement.map_text_inj readable otherReadable same
    rw [drawn, otherDrawn] at statements
    exact NormalForm.statements_injective axes statements
  · rintro rfl
    rw [drawn, otherDrawn]

/-- A band whose line, alpha and index are filled in. -/
def sparseBand : Series :=
  .errorBand
    { x := some [3, 5]
      errors := some [1, 1]
      errorLabel := some "spread"
      label := some ""
      color := some .palette }

/-- The same band with nothing left out. -/
def fullBand : Series :=
  .errorBand
    { x := some (ordinal 2)
      y := some [3, 5]
      errors := some [1, 1]
      alpha := some Band.defaultAlpha
      errorLabel := some "spread"
      color := some .palette }

theorem sparseBand_lines_eq_iff :
    sparseBand.check = .ok () ∧ fullBand.check = .ok () ∧
      ∃ form otherForm lines otherLines,
        sparseBand.normalForm = .ok form ∧ fullBand.normalForm = .ok otherForm ∧
          (sparseBand.render .primary .empty).result = .ok ⟨Script.empty.lines ++ lines⟩ ∧
          (fullBand.render .primary .empty).result = .ok ⟨Script.empty.lines ++ otherLines⟩ ∧
          (lines = otherLines ↔ form = otherForm) :=
  ⟨rfl, rfl, lines_eq_iff_normalForm_eq rfl rfl (by decide) (by decide) (by decide) (by decide)
    .primary .empty⟩

end Series

end FigureScript
