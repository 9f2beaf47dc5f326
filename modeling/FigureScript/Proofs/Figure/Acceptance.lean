import FigureScript.Figure.Document
import FigureScript.Proofs.Figure.Admission
import FigureScript.Proofs.Figure.Reading
import FigureScript.Proofs.Json.Accepts

namespace FigureScript

open Fallible (Succeeds)
open Json (Decoder Place Record)
open Json.Record (succeeds_field succeeds_field_iff)

/-! # What the schema admits is read

For every definition of the schema there is a decoder. It accepts the values that the definition
admits, as far as the sizes in them are held as sizes; each statement names the sizes of its part.
-/

namespace FigureSchema

open Schema

variable {description name : String} {value : Json}

theorem form_truth {default : Bool} (admits : (truth default).Admits value) :
    ∃ held, value = .boolean held := by
  simpa [truth, admits_boolean_iff] using admits

theorem form_text (admits : Admits [.type [.string]] value) : ∃ held, value = .string held := by
  simpa [admits_string_iff] using admits

theorem form_number (admits : number.Admits value) : ∃ held, value = .number held := by
  simpa [number, admits_number_iff] using admits

theorem form_array {item : Schema} {form : Json → Prop}
    (each : ∀ value, item.Admits value → form value)
    (typed : JsonType.array.admits value = true) (allows : Allows (.items item) value) :
    ∃ items, value = .array items ∧ ∀ item ∈ items, form item := by
  obtain ⟨items, rfl⟩ := admits_array_iff.mp typed
  exact ⟨items, rfl, fun one inside => each one (allows_items.mp allows items rfl one inside)⟩

theorem form_numbers (admits : Admits [.type [.array], .items number] value) :
    ∃ items, value = .array items ∧ ∀ item ∈ items, ∃ held, item = .number held := by
  simp only [admits_cons, admits_nil, and_true, allows_type, List.mem_singleton,
    exists_eq_left] at admits
  exact form_array (fun _ => form_number) admits.1 admits.2

theorem acceptsAll_truth {default : Bool} : Decoder.truth.AcceptsAll (truth default).Admits :=
  Decoder.acceptsAll_truth.mono fun _ => form_truth

theorem acceptsAll_describedTruth {default : Bool} :
    Decoder.truth.AcceptsAll (describedTruth description default).Admits :=
  acceptsAll_truth.mono fun _ admits => (admits_cons.mp admits).2

theorem acceptsAll_optionalText :
    (Decoder.optional .text).AcceptsAll (optionalText description).Admits := by
  refine Decoder.acceptsAll_text.optional.mono fun value admits => ?_
  simpa [optionalText, allows_type_or_null, admits_string_iff, -allows_type] using admits

theorem acceptsAll_optionalNumber :
    (Decoder.optional .float).AcceptsAll (optionalNumber description).Admits := by
  refine Decoder.acceptsAll_float.optional.mono fun value admits => ?_
  simpa [optionalNumber, allows_type_or_null, admits_number_iff, -allows_type] using admits

theorem acceptsAll_optionalNumbers :
    FigureScript.optionalNumbers.AcceptsAll (optionalNumbers description).Admits := by
  refine Decoder.acceptsAll_float.list.optional.mono fun value admits => ?_
  simp only [optionalNumbers, admits_cons, admits_nil, allows_description, allows_default,
    allows_type_or_null, true_and, and_true] at admits
  obtain ⟨none | typed, each⟩ := admits
  · exact .inl none
  · exact .inr (form_array (fun _ => form_number) typed each)

theorem form_pair (typed : JsonType.array.admits value = true) (most : Allows (.maxItems 2) value)
    (least : Allows (.minItems 2) value) (each : Allows (.prefixItems [number, number]) value) :
    ∃ first second, value = .array [.number first, .number second] := by
  obtain ⟨items, rfl⟩ := admits_array_iff.mp typed
  have two : items.length = 2 :=
    le_antisymm (allows_maxItems.mp most items rfl) (allows_minItems.mp least items rfl)
  obtain ⟨first, second, rfl⟩ := List.length_eq_two.mp two
  have pairs := allows_prefixItems.mp each _ rfl
  simp only [List.zip_cons_cons, List.zip_nil_right, List.forall_mem_cons] at pairs
  obtain ⟨one, rfl⟩ := form_number pairs.1
  obtain ⟨other, rfl⟩ := form_number pairs.2.1
  exact ⟨one, other, rfl⟩

theorem acceptsAll_optionalPair :
    (Decoder.optional (.pair .float)).AcceptsAll (optionalPair description).Admits := by
  refine Decoder.acceptsAll_pair.optional.mono fun value admits => ?_
  simp only [optionalPair, admits_cons, admits_nil, allows_description, allows_default,
    allows_type_or_null, true_and, and_true] at admits
  obtain ⟨none | typed, most, least, each⟩ := admits
  · exact .inl none
  · exact .inr (form_pair typed most least each)

theorem form_optional {definition : Schema}
    (admits : (optional description name definition).Admits value) :
    value = .null ∨ definition.Admits value := by
  simpa [optional, admits_null_iff, or_comm] using admits

/-! ## Records -/

/-- A record is accepted like its fields, of which the schema has the same names. -/
theorem accepts_record {α : Type} {record : Record α} {place : Place} {sizes : Json → List Json}
    {entries : List (String × Schema)}
    (reads : ∀ members, (Json.object members).KeysOnce →
      (∀ entry ∈ entries, ∀ held ∈ (Json.object members).get? entry.1, entry.2.Admits held) →
      (Succeeds (record.read members) ↔ ∀ size ∈ sizes (.object members), size.IsSize)) :
    (record.decode place).Accepts (FigureSchema.record description entries).Admits sizes := by
  intro value keys admits
  obtain ⟨typed, given⟩ := admits_record.mp admits
  obtain ⟨members, rfl⟩ := admits_object_iff.mp typed
  exact reads members keys given

theorem acceptsAll_record {α : Type} {record : Record α} {place : Place}
    {entries : List (String × Schema)}
    (reads : ∀ members, (Json.object members).KeysOnce →
      (∀ entry ∈ entries, ∀ held ∈ (Json.object members).get? entry.1, entry.2.Admits held) →
      Succeeds (record.read members)) :
    (record.decode place).AcceptsAll (FigureSchema.record description entries).Admits := by
  refine Decoder.acceptsAll_iff.mpr (accepts_record fun members keys given => ?_)
  simpa using reads members keys given

theorem acceptsAll_axis {place : Place} : (Axis.record.decode place).AcceptsAll axis.Admits := by
  refine acceptsAll_record fun members keys given => ?_
  simp only [List.forall_mem_cons] at given
  obtain ⟨label, limits, -⟩ := given
  refine (succeeds_field acceptsAll_optionalText keys label).bind fun _ => ?_
  exact (succeeds_field acceptsAll_optionalPair keys limits).bind fun _ => ⟨_, rfl⟩

theorem form_legendPosition (admits : legendPosition.Admits value) :
    ∃ position : LegendPosition, value = .string position.name := by
  simp only [legendPosition, admits_cons, admits_nil, allows_description, true_and,
    and_true] at admits
  obtain ⟨schema, alternative, own⟩ := exists_of_allows_oneOf admits
  simp only [List.mem_cons, List.not_mem_nil, or_false] at alternative
  rcases alternative with rfl | rfl
  · simp only [admits_cons, admits_nil, and_true, allows_enumeration] at own
    obtain ⟨-, text, listed, rfl⟩ := own
    obtain ⟨position, -, rfl⟩ := List.mem_map.mp listed
    exact ⟨position, rfl⟩
  · simp only [admits_cons, admits_nil, and_true, allows_const] at own
    exact ⟨.best, own.2.2⟩

theorem acceptsAll_legendPosition : LegendPosition.decode.AcceptsAll legendPosition.Admits := by
  intro value _ admits
  obtain ⟨position, rfl⟩ := form_legendPosition admits
  exact ⟨position, position.read_name⟩

theorem acceptsAll_legend {place : Place} :
    (Legend.record.decode place).AcceptsAll legend.Admits := by
  refine acceptsAll_record fun members keys given => ?_
  simp only [List.forall_mem_cons] at given
  obtain ⟨fontSize, position, -⟩ := given
  have number : ∀ held ∈ (Json.object members).get? "font_size", ∃ size, held = .number size :=
    fun held found => form_number (by simpa [number] using fontSize held found)
  refine (succeeds_field Decoder.acceptsAll_float keys number).bind fun _ => ?_
  exact (succeeds_field acceptsAll_legendPosition keys
    fun held found => admits_required.mp (position held found)).bind fun _ => ⟨_, rfl⟩

theorem acceptsAll_style {place : Place} : (Style.record.decode place).AcceptsAll style.Admits := by
  refine acceptsAll_record fun members keys given => ?_
  simp only [List.forall_mem_cons] at given
  obtain ⟨dark, grid, styling, -⟩ := given
  refine (succeeds_field acceptsAll_describedTruth keys dark).bind fun _ => ?_
  refine (succeeds_field acceptsAll_describedTruth keys grid).bind fun _ => ?_
  exact (succeeds_field acceptsAll_describedTruth keys styling).bind fun _ => ⟨_, rfl⟩

/-! ## Colors and categories -/

/-- Only a name stands in an object, whose one member it is. -/
theorem form_color (keys : value.KeysOnce) (admits : color.Admits value) :
    ∃ held : Color, value = held.toJson := by
  simp only [color, admits_cons, admits_nil, allows_description, true_and, and_true] at admits
  obtain ⟨schema, alternative, own⟩ := exists_of_allows_oneOf admits
  simp only [List.mem_cons, List.not_mem_nil, or_false] at alternative
  rcases alternative with rfl | rfl
  · simp only [admits_cons, admits_nil, and_true, allows_const] at own
    exact ⟨.palette, own.2.2⟩
  · simp only [admits_cons, admits_nil, allows_description, true_and, and_true, allows_type,
      List.mem_singleton, exists_eq_left, allows_properties, forall_eq] at own
    obtain ⟨typed, text, closed, required⟩ := own
    obtain ⟨members, rfl⟩ := admits_object_iff.mp typed
    have named := allows_closed.mp closed members rfl
    have present := allows_required.mp required members rfl "named" (by simp)
    have once := (Json.keysOnce_object.mp keys).1
    rcases members with _ | ⟨⟨key, content⟩, _ | ⟨⟨second, another⟩, rest⟩⟩
    · contradiction
    · obtain rfl : key = "named" := by simpa using named
      have own := text content (by simp [Json.get?, Json.lookup])
      obtain ⟨name, rfl⟩ := admits_string_iff.mp own
      exact ⟨.named name, rfl⟩
    · obtain ⟨one, other, -⟩ : key = "named" ∧ second = "named" ∧ _ := by simpa using named
      simp [one, other] at once

theorem acceptsAll_color : Color.decode.AcceptsAll color.Admits := by
  intro value keys admits
  obtain ⟨held, rfl⟩ := form_color keys admits
  exact ⟨held, held.read_toJson⟩

theorem acceptsAll_colorField :
    (Decoder.optional Color.decode).AcceptsAll (colorField description).Admits :=
  acceptsAll_color.optional.mono fun _ => form_optional

theorem acceptsAll_categories : Categories.decode.AcceptsAll categories.Admits := by
  intro value keys admits
  simp only [categories, admits_cons, admits_nil, allows_description, true_and, and_true,
    allows_anyOf, List.mem_cons, List.not_mem_nil, or_false, exists_eq_or_imp, exists_eq_left,
    allows_type] at admits
  unfold Categories.decode
  cases floats : Decoder.list .float value with
  | ok positions => exact ⟨.numeric positions, rfl⟩
  | error _ =>
      rcases admits with ⟨typed, each⟩ | ⟨typed, each⟩
      · obtain ⟨positions, read⟩ := Decoder.acceptsAll_float.list value keys
          (form_array (fun _ => form_number) typed each)
        rw [floats] at read
        contradiction
      · obtain ⟨names, read⟩ := Decoder.acceptsAll_text.list value keys
          (form_array (fun _ => form_text) typed each)
        exact ⟨.labels names, by simp only [read]⟩

theorem acceptsAll_optionalCategories :
    (Decoder.optional Categories.decode).AcceptsAll (optional description name categories).Admits :=
  acceptsAll_categories.optional.mono fun _ => form_optional

/-! ## Sizes -/

end FigureSchema

/-- The sizes in the place of a series. -/
def Cell.sizeValues (value : Json) : List Json := value.member "column" ++ value.member "row"

/-- The sizes in the description of a grid. -/
def Grid.sizeValues (value : Json) : List Json := value.member "columns" ++ value.member "rows"

def Series.sizeValues (value : Json) : List Json :=
  (value.member "position").flatMap Cell.sizeValues

/-- The sizes in the series of a figure or of its second axis. -/
def Series.listedSizeValues (value : Json) : List Json :=
  (value.member "series").flatMap fun list => list.elements.flatMap Series.sizeValues

/-- The numbers in the description of a figure that are sizes. -/
def Figure.sizeValues (value : Json) : List Json :=
  Series.listedSizeValues value ++ (value.member "subplots").flatMap Grid.sizeValues ++
    (value.member "twin").flatMap Series.listedSizeValues

namespace FigureSchema

open Schema

variable {description name : String} {value : Json}

theorem accepts_size {default : Option UInt64} :
    Decoder.size.Accepts (size default).Admits fun value => [value] :=
  Decoder.accepts_size.mono fun _ _ => trivial

theorem accepts_cell {place : Place} :
    (Cell.record.decode place).Accepts cell.Admits Cell.sizeValues := by
  refine accepts_record fun members keys given => ?_
  simp only [List.forall_mem_cons] at given
  obtain ⟨column, row, -⟩ := given
  rw [Cell.sizeValues, List.forall_mem_append, ← List.flatMap_singleton' (Json.member _ _),
    ← List.flatMap_singleton' (Json.member "row" _)]
  refine Fallible.succeeds_bind_iff (succeeds_field_iff accepts_size keys column) fun _ => ?_
  exact Fallible.succeeds_bind_iff_first (succeeds_field_iff accepts_size keys row)
    fun _ => ⟨_, rfl⟩

theorem accepts_cellField {place : Place} :
    (Cell.record.decode place).Accepts cellField.Admits Cell.sizeValues :=
  accepts_cell.mono fun _ => admits_required.mp

/-- A grid is accepted like its two sides, which it must have. -/
theorem accepts_grid : Grid.decode.Accepts grid.Admits Grid.sizeValues := by
  intro value keys admits
  obtain ⟨described, required⟩ := admits_append.mp admits
  obtain ⟨typed, given⟩ := admits_record.mp described
  obtain ⟨members, rfl⟩ := admits_object_iff.mp typed
  simp only [List.forall_mem_cons] at given
  obtain ⟨-, -, shareX, shareY, -⟩ := given
  have present := allows_required.mp (admits_cons.mp required).1 members rfl
  obtain ⟨rows, rowsGiven⟩ := Option.ne_none_iff_exists'.mp (present "rows" (by simp))
  obtain ⟨columns, columnsGiven⟩ := Option.ne_none_iff_exists'.mp (present "columns" (by simp))
  obtain ⟨sharedX, readX⟩ : Fallible.Succeeds (Json.Record.field members "share_x" .truth false) :=
    succeeds_field acceptsAll_truth keys shareX
  obtain ⟨sharedY, readY⟩ : Fallible.Succeeds (Json.Record.field members "share_y" .truth false) :=
    succeeds_field acceptsAll_truth keys shareY
  have read : Grid.decode (.object members) =
      (Decoder.size columns >>= fun columns => Decoder.size rows >>= fun rows =>
        .ok { rows, columns, shareX := sharedX, shareY := sharedY }) := by
    simp only [Grid.decode, Record.decode, PartialGrid.record, Json.Record.field, rowsGiven,
      columnsGiven] at readX readY ⊢
    simp only [readX, readY]
    cases Decoder.size columns with
    | error fault => rfl
    | ok columns =>
        cases Decoder.size rows with
        | error fault => rfl
        | ok rows => rfl
  have sides : Grid.sizeValues (.object members) = [columns, rows] := by
    simp [Grid.sizeValues, Json.member, Json.get?, rowsGiven, columnsGiven]
  rw [read, sides, List.forall_mem_cons]
  refine Fallible.succeeds_bind_iff ?_ fun _ => ?_
  · simpa using Decoder.accepts_size columns (Record.keysOnce_lookup keys columnsGiven) trivial
  · refine Fallible.succeeds_bind_iff_first ?_ fun _ => ⟨_, rfl⟩
    exact Decoder.accepts_size rows (Record.keysOnce_lookup keys rowsGiven) trivial

/-! ## Series -/

theorem accepts_trace {place : Place} :
    (Trace.record.decode place).Accepts trace.Admits Series.sizeValues := by
  refine accepts_record fun members keys given => ?_
  simp only [List.forall_mem_cons] at given
  obtain ⟨color, label, position, x, y, -⟩ := given
  refine (succeeds_field acceptsAll_colorField keys color).bind_iff fun _ => ?_
  refine (succeeds_field acceptsAll_optionalText keys label).bind_iff fun _ => ?_
  refine Fallible.succeeds_bind_iff_first (succeeds_field_iff accepts_cellField keys position)
    fun _ => ?_
  refine (succeeds_field acceptsAll_optionalNumbers keys x).bind fun _ => ?_
  exact (succeeds_field acceptsAll_optionalNumbers keys y).bind fun _ => ⟨_, rfl⟩

theorem accepts_bars {place : Place} :
    (Bars.record.decode place).Accepts bars.Admits Series.sizeValues := by
  refine accepts_record fun members keys given => ?_
  simp only [List.forall_mem_cons] at given
  obtain ⟨categories, color, errors, horizontal, label, position, values, width, -⟩ := given
  refine (succeeds_field acceptsAll_optionalCategories keys categories).bind_iff fun _ => ?_
  refine (succeeds_field acceptsAll_colorField keys color).bind_iff fun _ => ?_
  refine (succeeds_field acceptsAll_optionalNumbers keys errors).bind_iff fun _ => ?_
  refine (succeeds_field acceptsAll_describedTruth keys horizontal).bind_iff fun _ => ?_
  refine (succeeds_field acceptsAll_optionalText keys label).bind_iff fun _ => ?_
  refine Fallible.succeeds_bind_iff_first (succeeds_field_iff accepts_cellField keys position)
    fun _ => ?_
  refine (succeeds_field acceptsAll_optionalNumbers keys values).bind fun _ => ?_
  exact (succeeds_field acceptsAll_optionalNumber keys width).bind fun _ => ⟨_, rfl⟩

theorem accepts_band {place : Place} :
    (Band.record.decode place).Accepts band.Admits Series.sizeValues := by
  refine accepts_record fun members keys given => ?_
  simp only [List.forall_mem_cons] at given
  obtain ⟨alpha, color, errorLabel, errors, label, position, x, y, -⟩ := given
  refine (succeeds_field acceptsAll_optionalNumber keys alpha).bind_iff fun _ => ?_
  refine (succeeds_field acceptsAll_colorField keys color).bind_iff fun _ => ?_
  refine (succeeds_field acceptsAll_optionalText keys errorLabel).bind_iff fun _ => ?_
  refine (succeeds_field acceptsAll_optionalNumbers keys errors).bind_iff fun _ => ?_
  refine (succeeds_field acceptsAll_optionalText keys label).bind_iff fun _ => ?_
  refine Fallible.succeeds_bind_iff_first (succeeds_field_iff accepts_cellField keys position)
    fun _ => ?_
  refine (succeeds_field acceptsAll_optionalNumbers keys x).bind fun _ => ?_
  exact (succeeds_field acceptsAll_optionalNumbers keys y).bind fun _ => ⟨_, rfl⟩

theorem form_rows {description : String} {default : Json}
    (admits : Admits [.description description, .type [.array], .default default,
      .items [.type [.array], .items number]] value) :
    ∃ rows, value = .array rows ∧ ∀ row ∈ rows,
      ∃ items, row = .array items ∧ ∀ item ∈ items, ∃ held, item = .number held := by
  simp only [admits_cons, admits_nil, allows_description, allows_default, allows_type,
    List.mem_singleton, exists_eq_left, true_and, and_true] at admits
  exact form_array (fun _ => form_numbers) admits.1 admits.2

theorem accepts_matrix {place : Place} :
    (Matrix.record.decode place).Accepts matrix.Admits Series.sizeValues := by
  refine accepts_record fun members keys given => ?_
  simp only [List.forall_mem_cons] at given
  obtain ⟨colorMap, hinton, label, position, values, -⟩ := given
  refine (succeeds_field acceptsAll_optionalText keys colorMap).bind_iff fun _ => ?_
  refine (succeeds_field acceptsAll_describedTruth keys hinton).bind_iff fun _ => ?_
  refine (succeeds_field acceptsAll_optionalText keys label).bind_iff fun _ => ?_
  refine Fallible.succeeds_bind_iff_first (succeeds_field_iff accepts_cellField keys position)
    fun _ => ?_
  exact (succeeds_field Decoder.acceptsAll_float.list.list keys
    fun held found => form_rows (values held found)).bind fun _ => ⟨_, rfl⟩

theorem accepts_content (kind : SeriesKind) :
    Decoder.Accepts kind.content (fieldsOf kind).Admits Series.sizeValues := by
  cases kind with
  | line => exact accepts_trace.map Series.line
  | scatter => exact accepts_trace.map Series.scatter
  | bar => exact accepts_bars.map Series.bar
  | errorBand => exact accepts_band.map Series.errorBand
  | matrix => exact accepts_matrix.map Series.matrix

theorem form_taggedSeries {kind : SeriesKind} {definition : Schema}
    (admits : (taggedSeries kind name definition).Admits value) :
    ∃ members, value = .object members ∧
      Json.lookup "kind" members = some (.string kind.name) ∧ definition.Admits value := by
  simp only [taggedSeries, admits_cons, admits_nil, and_true, allows_type, List.mem_singleton,
    exists_eq_left, allows_properties, forall_eq, allows_reference] at admits
  obtain ⟨typed, tag, fields, required⟩ := admits
  obtain ⟨members, rfl⟩ := admits_object_iff.mp typed
  have present := allows_required.mp required members rfl "kind" (by simp)
  obtain ⟨held, found⟩ := Option.ne_none_iff_exists'.mp present
  have named := (tag held found).2
  exact ⟨members, rfl, found.trans (by rw [allows_const.mp named]), fields⟩

/-- Every alternative has the tag of one kind and the fields of that kind. -/
theorem form_series (admits : series.Admits value) :
    ∃ kind members, value = .object members ∧
      Json.lookup "kind" members = some (.string (SeriesKind.name kind)) ∧
      (fieldsOf kind).Admits value := by
  simp only [series, admits_cons, admits_nil, allows_description, true_and, and_true] at admits
  obtain ⟨schema, alternative, own⟩ := exists_of_allows_oneOf admits
  simp only [List.mem_cons, List.not_mem_nil, or_false] at alternative
  rcases alternative with rfl | rfl | rfl | rfl | rfl
  · exact ⟨.line, form_taggedSeries own⟩
  · exact ⟨.scatter, form_taggedSeries own⟩
  · exact ⟨.bar, form_taggedSeries own⟩
  · exact ⟨.errorBand, form_taggedSeries own⟩
  · exact ⟨.matrix, form_taggedSeries own⟩

theorem accepts_series : Series.decode.Accepts series.Admits Series.sizeValues := by
  intro value keys admits
  obtain ⟨kind, members, rfl, tag, fields⟩ := form_series admits
  rw [Series.decode_object kind tag]
  exact accepts_content kind _ keys fields

theorem form_seriesList (admits : (seriesList description).Admits value) :
    ∃ items, value = .array items ∧ ∀ item ∈ items, series.Admits item := by
  simp only [seriesList, admits_cons, admits_nil, allows_description, allows_default, allows_type,
    List.mem_singleton, exists_eq_left, true_and, and_true] at admits
  refine form_array (fun item listed => ?_) admits.1 admits.2
  exact allows_reference.mp (admits_cons.mp listed).1

theorem accepts_seriesList :
    (Decoder.list Series.decode).Accepts (seriesList description).Admits fun value =>
      value.elements.flatMap Series.sizeValues :=
  accepts_series.list.mono fun _ => form_seriesList

/-! ## Figures -/

theorem accepts_twin {place : Place} :
    (TwinAxis.record.decode place).Accepts twin.Admits Series.listedSizeValues := by
  refine accepts_record fun members keys given => ?_
  simp only [List.forall_mem_cons] at given
  obtain ⟨drawn, yAxis, -⟩ := given
  refine Fallible.succeeds_bind_iff_first (succeeds_field_iff accepts_seriesList keys drawn)
    fun _ => ?_
  exact (succeeds_field acceptsAll_axis keys
    fun held found => admits_required.mp (yAxis held found)).bind fun _ => ⟨_, rfl⟩

theorem accepts_figure : Figure.ofJson.Accepts figure.Admits Figure.sizeValues := by
  refine accepts_record fun members keys given => ?_
  simp only [List.forall_mem_cons] at given
  obtain ⟨block, legend, outputName, drawn, showWindow, size, style, subplots, tickLabelSize, tight,
    title, twin, xAxis, yAxis, -⟩ := given
  rw [Figure.sizeValues, List.forall_mem_append, List.forall_mem_append, and_assoc]
  refine (succeeds_field acceptsAll_describedTruth keys block).bind_iff fun _ => ?_
  refine (succeeds_field acceptsAll_legend keys
    fun held found => admits_required.mp (legend held found)).bind_iff fun _ => ?_
  refine (succeeds_field acceptsAll_optionalText keys outputName).bind_iff fun _ => ?_
  refine Fallible.succeeds_bind_iff (succeeds_field_iff accepts_seriesList keys drawn) fun _ => ?_
  refine (succeeds_field acceptsAll_describedTruth keys showWindow).bind_iff fun _ => ?_
  refine (succeeds_field acceptsAll_optionalPair keys size).bind_iff fun _ => ?_
  refine (succeeds_field acceptsAll_style keys
    fun held found => admits_required.mp (style held found)).bind_iff fun _ => ?_
  refine Fallible.succeeds_bind_iff (succeeds_field_iff (accepts_grid.optional rfl) keys
    fun held found => form_optional (subplots held found)) fun _ => ?_
  refine (succeeds_field acceptsAll_optionalNumber keys tickLabelSize).bind_iff fun _ => ?_
  refine (succeeds_field acceptsAll_describedTruth keys tight).bind_iff fun _ => ?_
  refine (succeeds_field acceptsAll_optionalText keys title).bind_iff fun _ => ?_
  refine Fallible.succeeds_bind_iff_first (succeeds_field_iff (accepts_twin.optional rfl) keys
    fun held found => form_optional (twin held found)) fun _ => ?_
  refine (succeeds_field acceptsAll_axis keys
    fun held found => admits_required.mp (xAxis held found)).bind fun _ => ?_
  exact (succeeds_field acceptsAll_axis keys
    fun held found => admits_required.mp (yAxis held found)).bind fun _ => ⟨_, rfl⟩

end FigureSchema

end FigureScript
