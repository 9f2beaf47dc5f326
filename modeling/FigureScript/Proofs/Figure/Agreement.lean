import FigureScript.Proofs.Figure.Acceptance

namespace FigureScript

open Fallible (Succeeds)

/-! # Schema and reader compared

To the schema a size is any whole number, while reading wants it held as a natural one. Main
statement: this is the only way in which a value that the schema admits can be refused.
-/

namespace FigureSchema

open Schema

variable {description name : String} {value : Json}

theorem form_size {default : Option UInt64} (admits : (size default).Admits value) :
    value.IsSize ∨ value.IsWholeFloat := by
  have known : JsonType.integer.admits value = true ∧ isBelow 0 value = false := by
    cases default <;> simpa [size] using admits
  obtain ⟨typed, least⟩ := known
  cases value with
  | number held =>
      cases held with
      | natural held => exact .inl ⟨held, rfl⟩
      | negative held below => contradiction
      | float held => exact .inr ⟨held, rfl, typed⟩
  | null | boolean | string | array | object => contradiction

theorem admits_of_mem_member {entries : List (String × Schema)} {entry : Schema} {held : Json}
    (admits : (record description entries).Admits value) (listed : (name, entry) ∈ entries)
    (inside : held ∈ value.member name) : entry.Admits held :=
  (admits_record.mp admits).2 (name, entry) listed held (Option.mem_toList.mp inside)

theorem whole_of_cell (admits : cell.Admits value) :
    ∀ size ∈ Cell.sizeValues value, size.IsSize ∨ size.IsWholeFloat := by
  intro size inside
  have own : (FigureSchema.size (some 0)).Admits size := by
    rcases List.mem_append.mp inside with column | row
    · exact admits_of_mem_member admits (by simp) column
    · exact admits_of_mem_member admits (by simp) row
  exact form_size own

theorem whole_of_grid (admits : grid.Admits value) :
    ∀ size ∈ Grid.sizeValues value, size.IsSize ∨ size.IsWholeFloat := by
  have described := (admits_append.mp admits).1
  intro size inside
  have own : (FigureSchema.size none).Admits size := by
    rcases List.mem_append.mp inside with columns | rows
    · exact admits_of_mem_member described (by simp) columns
    · exact admits_of_mem_member described (by simp) rows
  exact form_size own

theorem whole_of_series (admits : series.Admits value) :
    ∀ size ∈ Series.sizeValues value, size.IsSize ∨ size.IsWholeFloat := by
  obtain ⟨kind, -, -, -, fields⟩ := form_series admits
  intro size inside
  obtain ⟨position, given, inside⟩ := List.mem_flatMap.mp inside
  have placed : cellField.Admits position := by
    cases kind with
    | line => exact admits_of_mem_member fields (by simp) given
    | scatter => exact admits_of_mem_member fields (by simp) given
    | bar => exact admits_of_mem_member fields (by simp) given
    | errorBand => exact admits_of_mem_member fields (by simp) given
    | matrix => exact admits_of_mem_member fields (by simp) given
  exact whole_of_cell (admits_required.mp placed) size inside

/-- The series of a figure and those of a second axis are listed in the same way. -/
theorem whole_of_seriesList
    (admits : ∀ drawn ∈ value.member "series", (seriesList description).Admits drawn) :
    ∀ size ∈ Series.listedSizeValues value, size.IsSize ∨ size.IsWholeFloat := by
  intro size inside
  obtain ⟨drawn, given, inside⟩ := List.mem_flatMap.mp inside
  obtain ⟨items, rfl, each⟩ := form_seriesList (admits drawn given)
  obtain ⟨one, listed, inside⟩ := List.mem_flatMap.mp inside
  exact whole_of_series (each one listed) size inside

/-- To the schema a size is a whole number, held as a natural one or as a double. -/
theorem whole_of_figure (admits : figure.Admits value) :
    ∀ size ∈ Figure.sizeValues value, size.IsSize ∨ size.IsWholeFloat := by
  have primary : ∀ drawn ∈ value.member "series",
      (seriesList "Series, drawn in order").Admits drawn :=
    fun drawn => admits_of_mem_member admits (by simp)
  intro size inside
  rcases List.mem_append.mp inside with inside | inside
  · rcases List.mem_append.mp inside with inside | inside
    · exact whole_of_seriesList primary size inside
    · obtain ⟨shape, given, inside⟩ := List.mem_flatMap.mp inside
      have own : (optional "Subplot grid" "SubplotSpec" grid).Admits shape :=
        admits_of_mem_member admits (by simp) given
      rcases form_optional own with rfl | own
      · contradiction
      · exact whole_of_grid own size inside
  · obtain ⟨second, given, inside⟩ := List.mem_flatMap.mp inside
    have own : (optional "Secondary y-axis; cannot be combined with subplots" "TwinAxis"
        twin).Admits second := admits_of_mem_member admits (by simp) given
    rcases form_optional own with rfl | own
    · contradiction
    · have drawn : ∀ drawn ∈ second.member "series",
          (seriesList "Series drawn on the secondary axis").Admits drawn :=
        fun drawn => admits_of_mem_member own (by simp)
      exact whole_of_seriesList drawn size inside

end FigureSchema

namespace Figure

theorem admits_of_checkSchema {document : Json} (checked : checkSchema document = .ok ()) :
    FigureSchema.figure.Admits document := by
  unfold checkSchema at checked
  split at checked
  · assumption
  · contradiction

/-- What the schema admits is read, unless a whole number held as a double stands for a size. -/
theorem succeeds_ofJson_iff {document : Json} (keys : document.KeysOnce)
    (checked : checkSchema document = .ok ()) :
    (Succeeds (ofJson document) ↔ ∀ size ∈ sizeValues document, size.IsSize) ∧
      (¬ Succeeds (ofJson document) ↔ ∃ size ∈ sizeValues document, size.IsWholeFloat) := by
  have admits := admits_of_checkSchema checked
  have accepts := FigureSchema.accepts_figure document keys admits
  refine ⟨accepts, ?_⟩
  rw [accepts]
  constructor
  · intro refused
    obtain ⟨size, inside, other⟩ : ∃ size ∈ sizeValues document, ¬ size.IsSize := by
      simpa using refused
    exact ⟨size, inside, (FigureSchema.whole_of_figure admits size inside).resolve_left other⟩
  · rintro ⟨size, inside, whole⟩ all
    exact whole.not_isSize (all size inside)

theorem succeeds_parse_iff {text : String} {document : Json}
    (read : Json.parse text = .ok document) (checked : checkSchema document = .ok ()) :
    Succeeds (parse text) ↔ Succeeds (ofJson document) := by
  cases found : ofJson document with
  | error fault =>
      simp [parse, read, ofDocument, checked, Figure.read, found, Succeeds, bind, Except.bind]
  | ok figure =>
      simp [parse, read, ofDocument, checked, Figure.read, found, Succeeds, bind, Except.bind]

/-- The schema admits more than what is read as a figure in one point only: at the size of a grid
and at the place of a series, which have to be held as natural numbers, it admits whole numbers that
are held as doubles. Values with the keys of an object once are all that a text can hold. -/
theorem parse_refuses_only_floats_for_sizes :
    (∀ document : Json, document.KeysOnce → checkSchema document = .ok () →
      ((∃ figure, ofJson document = .ok figure) ↔
        ∀ size ∈ sizeValues document, size.IsSize) ∧
      ((∃ fault, ofJson document = .error fault) ↔
        ∃ size ∈ sizeValues document, size.IsWholeFloat)) ∧
    ∀ text document, Json.parse text = .ok document →
      document.KeysOnce ∧
      (checkSchema document = .ok () →
        ((∃ figure, parse text = .ok figure) ↔
          ∀ size ∈ sizeValues document, size.IsSize) ∧
        ((∃ error, parse text = .error error) ↔
          ∃ size ∈ sizeValues document, size.IsWholeFloat)) := by
  constructor
  · intro document keys checked
    rw [← Fallible.not_succeeds_iff]
    exact succeeds_ofJson_iff keys checked
  · intro text document read
    have keys := Json.keysOnce_of_parse read
    refine ⟨keys, fun checked => ?_⟩
    rw [← Fallible.not_succeeds_iff]
    have same := succeeds_parse_iff read checked
    have compared := succeeds_ofJson_iff keys checked
    rw [← same] at compared
    exact compared

/-- The description of a grid with two rows. -/
def twoRows (columns : JsonNumber) : Json :=
  .object [("subplots", .object [("columns", .number columns), ("rows", .number (.natural 2))])]

theorem twoRows_refuses_only_floats_for_sizes :
    ((twoRows (.natural 1)).KeysOnce ∧ checkSchema (twoRows (.natural 1)) = .ok () ∧
      ∃ figure, ofJson (twoRows (.natural 1)) = .ok figure) ∧
    ((twoRows (.float 1.0)).KeysOnce ∧ checkSchema (twoRows (.float 1.0)) = .ok () ∧
      ∃ fault, ofJson (twoRows (.float 1.0)) = .error fault) ∧
    Json.parse "{}" = .ok (.object []) ∧ ∃ figure, parse "{}" = .ok figure := by
  have keys : ∀ columns, (twoRows columns).KeysOnce := by
    simp [twoRows, Json.KeysOnce, Json.KeysOnceMembers]
  have sizes : ∀ columns, sizeValues (twoRows columns) = [.number columns, .number (.natural 2)] :=
    fun _ => rfl
  have empty : Json.parse "{}" = .ok (.object []) := by cbv
  refine ⟨⟨keys _, rfl, ?_⟩, ⟨keys _, rfl, ?_⟩, empty, ?_⟩
  · refine (parse_refuses_only_floats_for_sizes.1 (twoRows (.natural 1)) (keys _) rfl).1.mpr ?_
    simp [sizes, Json.IsSize]
  · refine (parse_refuses_only_floats_for_sizes.1 (twoRows (.float 1.0)) (keys _) rfl).2.mpr ?_
    exact ⟨.number (.float 1.0), by simp [sizes], 1.0, rfl, by decide⟩
  · refine ((parse_refuses_only_floats_for_sizes.2 "{}" (.object []) empty).2 rfl).1.mpr ?_
    simp [sizeValues, Series.listedSizeValues, Json.member, Json.get?, Json.lookup]

end Figure

end FigureScript
