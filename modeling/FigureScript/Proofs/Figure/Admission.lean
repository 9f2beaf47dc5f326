import FigureScript.Figure.Schema
import FigureScript.Proofs.Figure.Numbers
import FigureScript.Proofs.Schema.Admits

namespace FigureScript.FigureSchema

open Schema
open Binary64 (AllFinite)
open Json (ofFloat ofSize ofOption ofList ofPair ofNumbers ofText)

/-! # The schema admits what is written

One statement for every definition of the schema: what a part of a figure is written as satisfies its
definition, provided its numbers are finite.
-/

variable {description name : String}

@[simp] theorem admits_record {members : List (String × Schema)} {value : Json} :
    (record description members).Admits value ↔
      JsonType.object.admits value = true ∧
        ∀ entry ∈ members, ∀ member ∈ value.get? entry.1, entry.2.Admits member := by
  simp [record]

@[simp] theorem admits_truth {default value : Bool} : (truth default).Admits (.boolean value) := by
  simp [truth]

@[simp] theorem admits_describedTruth {default value : Bool} :
    (describedTruth description default).Admits (.boolean value) := by
  simp [describedTruth]

@[simp] theorem admits_optionalText {text : Option String} :
    (optionalText description).Admits (ofText text) := by
  cases text <;> simp [optionalText, ofText, ofOption]

theorem admits_ofFloat {value : Float} (finite : Binary64.isFinite value = true) :
    number.Admits (ofFloat value) := by
  simp [number, ofFloat, finite]

theorem admits_optionalNumber {value : Option Float} (finite : AllFinite value.toList) :
    (optionalNumber description).Admits (ofOption ofFloat value) := by
  cases value with
  | none => simp [optionalNumber, ofOption]
  | some value =>
      have held : Binary64.isFinite value = true := by simpa using finite
      simp [optionalNumber, ofOption, ofFloat, held]

/-- The items of a list one by one. -/
theorem allows_each {α : Type} {encode : α → Json} {item : Schema} {values : List α}
    (each : ∀ value ∈ values, item.Admits (encode value)) :
    Allows (.items item) (ofList encode values) := by
  simpa [ofList] using each

theorem allows_numbers {values : List Float} (finite : AllFinite values) :
    Allows (.items number) (ofList ofFloat values) :=
  allows_each fun value member => admits_ofFloat (finite value member)

theorem admits_optionalNumbers {values : Option (List Float)} (finite : AllFinite (values.getD [])) :
    (optionalNumbers description).Admits (ofNumbers values) := by
  cases values with
  | none => simp [optionalNumbers, ofNumbers, ofOption]
  | some values =>
      simp only [optionalNumbers, admits_cons, admits_nil, allows_description, allows_default,
        true_and, and_true]
      exact ⟨by simp [ofNumbers, ofOption, ofList], allows_numbers finite⟩

theorem admits_optionalPair {pair : Option (Float × Float)} (finite : AllFinite (pairNumbers pair)) :
    (optionalPair description).Admits (ofOption ofPair pair) := by
  cases pair with
  | none => simp [optionalPair, ofOption]
  | some pair =>
      obtain ⟨first, second⟩ : Binary64.isFinite pair.1 = true ∧ Binary64.isFinite pair.2 = true := by
        simpa [pairNumbers] using finite
      have each : ∀ held ∈ [ofFloat pair.1, ofFloat pair.2].zip [number, number],
          held.2.Admits held.1 := by
        simp only [List.zip_cons_cons, List.zip_nil_left, List.forall_mem_cons]
        exact ⟨admits_ofFloat first, admits_ofFloat second, by simp⟩
      simp only [optionalPair, ofOption, ofPair, admits_cons, admits_nil, allows_description,
        allows_default, allows_maxItems, allows_minItems, allows_prefixItems, Json.array.injEq,
        forall_eq', true_and, and_true]
      exact ⟨by simp [JsonType.admits], by simp, by simp, each⟩

@[simp] theorem admits_required {definition : Schema} {default value : Json} :
    (required description name definition default).Admits value ↔ definition.Admits value := by
  simp [required]

theorem admits_optional {α : Type} {encode : α → Json} {definition : Schema} {value : Option α}
    (each : ∀ present ∈ value, definition.Admits (encode present)) :
    (optional description name definition).Admits (ofOption encode value) := by
  cases value with
  | none => simp [optional, ofOption]
  | some present => simp [optional, ofOption, each present rfl]

/-! ## Parts of figures -/

theorem admits_axis {value : Axis} (finite : AllFinite value.numbers) : axis.Admits value.toJson := by
  have limits : ∀ {description : String},
      (optionalPair description).Admits (ofOption ofPair value.limits) := admits_optionalPair finite
  simp [axis, Axis.toJson, Json.get?, Json.lookup, limits]

theorem admits_legendPosition (position : LegendPosition) :
    legendPosition.Admits (.string position.name) := by
  cases position <;> decide

theorem admits_legend {value : Legend} (finite : Binary64.isFinite value.fontSize = true) :
    legend.Admits value.toJson := by
  have position := admits_legendPosition value.position
  simp [legend, Legend.toJson, ofFloat, finite, Json.get?, Json.lookup, position]

theorem admits_style (value : Style) : style.Admits value.toJson := by
  simp [style, Style.toJson, Json.get?, Json.lookup]

theorem admits_size {default : Option UInt64} (value : UInt64) :
    (size default).Admits (ofSize value) := by
  cases default <;> simp [size, ofSize, isBelow]

theorem admits_cell (value : Cell) : cell.Admits value.toJson := by
  simp [cell, Cell.toJson, Json.get?, Json.lookup, admits_size]

theorem admits_cellField (value : Cell) : cellField.Admits value.toJson := by
  simp [cellField, admits_cell]

theorem admits_grid (value : Grid) : grid.Admits value.toJson := by
  simp [grid, Grid.toJson, Json.get?, Json.lookup, admits_size]

theorem admits_color (value : Color) : color.Admits value.toJson := by
  cases value with
  | palette => decide
  | named name => simp [color, Color.toJson, Json.get?, Json.lookup]

theorem admits_categories {value : Categories} (finite : AllFinite value.numbers) :
    categories.Admits value.toJson := by
  cases value with
  | numeric positions =>
      have items : Allows (.items number) (ofList ofFloat positions) := allows_numbers finite
      have list : JsonType.array.admits (ofList ofFloat positions) = true := rfl
      simp only [categories, Categories.toJson, admits_cons, admits_nil, allows_description,
        allows_anyOf]
      simp [items, list]
  | labels names =>
      simp [categories, Categories.toJson, ofList]

theorem admits_colorField (value : Option Color) :
    (colorField description).Admits (ofOption Color.toJson value) :=
  admits_optional fun present _ => admits_color present

theorem admits_trace {kind : SeriesKind} {value : Trace} (finite : AllFinite value.numbers) :
    trace.Admits (value.toJson kind) := by
  obtain ⟨x, y⟩ := Trace.allFinite_iff.mp finite
  simp [trace, Trace.toJson, labelField, Json.get?, Json.lookup, admits_cellField,
    admits_colorField, admits_optionalNumbers x, admits_optionalNumbers y]

theorem admits_bars {value : Bars} (finite : AllFinite value.numbers) :
    bars.Admits value.toJson := by
  obtain ⟨values, positions, errors, width⟩ := Bars.allFinite_iff.mp finite
  have held : ∀ present ∈ value.categories, categories.Admits present.toJson :=
    fun present given => admits_categories (positions present given)
  simp [bars, Bars.toJson, labelField, Json.get?, Json.lookup, admits_cellField,
    admits_colorField, admits_optional held, admits_optionalNumbers values,
    admits_optionalNumbers errors, admits_optionalNumber width]

theorem admits_band {value : Band} (finite : AllFinite value.numbers) :
    band.Admits value.toJson := by
  obtain ⟨x, y, errors, alpha⟩ := Band.allFinite_iff.mp finite
  simp [band, Band.toJson, labelField, Json.get?, Json.lookup, admits_cellField,
    admits_colorField, admits_optionalNumbers x, admits_optionalNumbers y,
    admits_optionalNumbers errors, admits_optionalNumber alpha]

theorem admits_matrix {value : Matrix} (finite : AllFinite value.numbers) :
    matrix.Admits value.toJson := by
  have rows : Allows (.items [.type [.array], .items number]) (ofList (ofList ofFloat) value.values) := by
    refine allows_each fun row member => ?_
    have own : AllFinite row := Matrix.allFinite_iff.mp finite row member
    simp only [admits_cons, admits_nil, and_true]
    exact ⟨by simp [ofList], allows_numbers own⟩
  have list : JsonType.array.admits (ofList (ofList ofFloat) value.values) = true := rfl
  simp [matrix, Matrix.toJson, Json.get?, Json.lookup, admits_cellField, rows, list, -allows_items]

/-! ## Series -/

theorem name_injective {first second : SeriesKind} (same : first.name = second.name) :
    first = second := by
  cases first <;> cases second <;> first | rfl | exact absurd same (by decide)

/-- The tag decides which of the alternatives can admit a series. -/
theorem admits_taggedSeries {kind own : SeriesKind} {definition : Schema}
    {members : List (String × Json)} (tag : Json.lookup "kind" members = some (.string own.name)) :
    (taggedSeries kind name definition).Admits (.object members) ↔
      own = kind ∧ definition.Admits (.object members) := by
  have same : own.name = kind.name ↔ own = kind := ⟨name_injective, fun equal => equal ▸ rfl⟩
  simp [taggedSeries, Json.get?, tag, same]

/-- The definition of the fields of a kind of series. -/
def fieldsOf : SeriesKind → Schema
  | .line | .scatter => trace
  | .bar => bars
  | .errorBand => band
  | .matrix => matrix

theorem admits_series_iff (kind : SeriesKind) {members : List (String × Json)}
    (tag : Json.lookup "kind" members = some (.string kind.name)) :
    series.Admits (.object members) ↔ (fieldsOf kind).Admits (.object members) := by
  simp only [series, admits_cons, admits_nil, allows_description, allows_oneOf, List.countP_cons,
    List.countP_nil, admits_taggedSeries tag, decide_eq_true_eq, true_and, and_true]
  cases kind <;> simp [fieldsOf]

theorem admits_series {value : Series} (finite : AllFinite value.numbers) :
    series.Admits value.toJson := by
  cases value with
  | line value => exact (admits_series_iff .line (by simp [Json.lookup])).mpr (admits_trace finite)
  | scatter value =>
      exact (admits_series_iff .scatter (by simp [Json.lookup])).mpr (admits_trace finite)
  | bar value => exact (admits_series_iff .bar (by simp [Json.lookup])).mpr (admits_bars finite)
  | errorBand value =>
      exact (admits_series_iff .errorBand (by simp [Json.lookup])).mpr (admits_band finite)
  | matrix value =>
      exact (admits_series_iff .matrix (by simp [Json.lookup])).mpr (admits_matrix finite)

theorem admits_seriesList {values : List Series}
    (finite : ∀ value ∈ values, AllFinite value.numbers) :
    (seriesList description).Admits (ofList Series.toJson values) := by
  have each : Allows (.items [.reference "Series" series]) (ofList Series.toJson values) :=
    allows_each fun value member => by simp [admits_series (finite value member)]
  have list : JsonType.array.admits (ofList Series.toJson values) = true := rfl
  simp [seriesList, each, list, -allows_items]

theorem admits_twin {value : TwinAxis} (finite : AllFinite value.numbers) :
    twin.Admits value.toJson := by
  obtain ⟨yAxis, drawn⟩ := TwinAxis.allFinite_iff.mp finite
  simp [twin, TwinAxis.toJson, Json.get?, Json.lookup, admits_axis yAxis, admits_seriesList drawn]

theorem admits_member {schema : Schema} {document member : Json} {key : String}
    (present : document.get? key = some member) (admits : schema.Admits member) :
    ∀ found ∈ document.get? key, schema.Admits found := by
  intro found again
  rw [present] at again
  exact Option.some.inj again ▸ admits

/-- The schema of figures admits what a figure with finite numbers is written as. -/
theorem admits_figure {value : Figure} (finite : AllFinite value.numbers) :
    figure.Admits value.toJson := by
  obtain ⟨xAxis, yAxis, fontSize, second, drawn, size, tickLabelSize⟩ :=
    Figure.allFinite_iff.mp finite
  have twinField : ∀ present ∈ value.twin, twin.Admits present.toJson :=
    fun present given => admits_twin (second present given)
  have gridField : ∀ present ∈ value.subplots, grid.Admits present.toJson :=
    fun present _ => admits_grid present
  rw [figure, admits_record]
  refine ⟨rfl, ?_⟩
  simp only [List.forall_mem_cons]
  exact ⟨admits_member rfl admits_describedTruth,
    admits_member rfl (admits_required.mpr (admits_legend fontSize)),
    admits_member rfl admits_optionalText,
    admits_member rfl (admits_seriesList drawn),
    admits_member rfl admits_describedTruth,
    admits_member rfl (admits_optionalPair size),
    admits_member rfl (admits_required.mpr (admits_style value.style)),
    admits_member rfl (admits_optional gridField),
    admits_member rfl (admits_optionalNumber tickLabelSize),
    admits_member rfl admits_describedTruth,
    admits_member rfl admits_optionalText,
    admits_member rfl (admits_optional twinField),
    admits_member rfl (admits_required.mpr (admits_axis xAxis)),
    admits_member rfl (admits_required.mpr (admits_axis yAxis)), by simp⟩

end FigureScript.FigureSchema
