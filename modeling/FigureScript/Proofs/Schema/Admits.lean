import FigureScript.Schema.Check

namespace FigureScript.Schema

/-! # What schemas admit

A value is admitted by a schema that finds no violation in it. The path to the value only stands in
the violations, so that it does not matter for this. For each keyword there is a statement of what it
asks for.
-/

/-- Checks that find fault with the same items. -/
theorem eachItem_eq_nil_iff {check : Nat → Json → List Violation} {admits : Json → Prop}
    (agree : ∀ index item, check index item = [] ↔ admits item) {index : Nat} {items : List Json} :
    eachItem check index items = [] ↔ ∀ item ∈ items, admits item := by
  induction items generalizing index with
  | nil => simp [eachItem]
  | cons item rest ih => simp [eachItem, agree, ih]

mutual

theorem keywordViolations_path (path other : List String) (value : Json) : (keyword : Keyword) →
    (keywordViolations path value keyword = [] ↔ keywordViolations other value keyword = [])
  | .title _ | .description _ | .format _ | .default _ => by simp only [keywordViolations]
  | .type _ | .const _ | .enumeration _ | .minimum _ => by
      simp only [keywordViolations]
      split <;> simp
  | .closed _ => by
      simp only [keywordViolations]
      split <;> simp
  | .required _ => by simp only [keywordViolations, List.map_eq_nil_iff]
  | .maxItems _ | .minItems _ => by
      simp only [keywordViolations]
      split
      · split <;> simp
      · simp
  | .anyOf _ => by
      simp only [keywordViolations]
      split <;> simp
  | .oneOf _ => by
      simp only [keywordViolations]
      split <;> simp
  | .reference _ definition => by
      simp only [keywordViolations]
      exact violations_path path other value definition
  | .properties members => by
      simp only [keywordViolations]
      exact memberViolations_path path other value members
  | .items item => by
      simp only [keywordViolations]
      split
      · rw [eachItem_eq_nil_iff fun index each => violations_path (path ++ [toString index]) [] each item,
          eachItem_eq_nil_iff fun index each => violations_path (other ++ [toString index]) [] each item]
      · rfl
  | .prefixItems firsts => by
      simp only [keywordViolations]
      split
      · exact prefixViolations_path path other 0 0 _ firsts
      · rfl

theorem violations_path (path other : List String) (value : Json) : (schema : List Keyword) →
    (violations path value schema = [] ↔ violations other value schema = [])
  | [] => by simp only [violations]
  | keyword :: rest => by
      simp only [violations, List.append_eq_nil_iff]
      rw [keywordViolations_path path other value keyword, violations_path path other value rest]

theorem memberViolations_path (path other : List String) (value : Json) :
    (members : List (String × List Keyword)) →
      (memberViolations path value members = [] ↔ memberViolations other value members = [])
  | [] => by simp only [memberViolations]
  | (name, schema) :: rest => by
      simp only [memberViolations, List.append_eq_nil_iff]
      rw [memberViolations_path path other value rest]
      split
      · rw [violations_path (path ++ [name]) (other ++ [name]) _ schema]
      · rfl

theorem prefixViolations_path (path other : List String) (index index' : Nat) :
    (items : List Json) → (firsts : List (List Keyword)) →
      (prefixViolations path index items firsts = [] ↔ prefixViolations other index' items firsts = [])
  | _, [] => by simp only [prefixViolations]
  | [], schema :: rest => by simp only [prefixViolations]
  | item :: others, schema :: rest => by
      simp only [prefixViolations, List.append_eq_nil_iff]
      rw [violations_path (path ++ [toString index]) (other ++ [toString index']) item schema,
        prefixViolations_path path other (index + 1) (index' + 1) others rest]

end

/-- The schema finds nothing wrong with the value. -/
def Admits (schema : Schema) (value : Json) : Prop := violations [] value schema = []

instance (schema : Schema) (value : Json) : Decidable (Admits schema value) :=
  decidable_of_iff ((violations [] value schema).isEmpty = true) List.isEmpty_iff

/-- The keyword finds nothing wrong with the value. -/
def Allows (keyword : Keyword) (value : Json) : Prop := keywordViolations [] value keyword = []

section

variable {value : Json} {schema rest : Schema} {keyword : Keyword}

theorem violations_eq_nil_iff {path : List String} :
    violations path value schema = [] ↔ Admits schema value :=
  violations_path path [] value schema

@[simp] theorem admits_nil : Admits [] value := rfl

@[simp] theorem admits_cons : Admits (keyword :: rest) value ↔ Allows keyword value ∧ Admits rest value := by
  simp only [Admits, Allows, violations, List.append_eq_nil_iff]

@[simp] theorem admits_append {first : Schema} :
    Admits (first ++ rest) value ↔ Admits first value ∧ Admits rest value := by
  induction first with
  | nil => simp
  | cons keyword first ih => simp [ih, and_assoc]

theorem satisfied_eq_countP (alternatives : List Schema) :
    satisfied value alternatives = alternatives.countP fun schema => schema.Admits value := by
  induction alternatives with
  | nil => rfl
  | cons schema rest ih =>
      have same : (violations [] value schema).isEmpty = decide (schema.Admits value) := by
        rw [Bool.eq_iff_iff, List.isEmpty_iff, decide_eq_true_iff]
        rfl
      rw [satisfied, ih, List.countP_cons, same, Nat.add_comm]

/-! ## Types -/

@[simp] theorem admits_array {items : List Json} : JsonType.array.admits (.array items) = true := rfl

@[simp] theorem admits_boolean {truth : Bool} : JsonType.boolean.admits (.boolean truth) = true := rfl

@[simp] theorem admits_null : JsonType.null.admits .null = true := rfl

@[simp] theorem admits_number {held : JsonNumber} : JsonType.number.admits (.number held) = true := rfl

@[simp] theorem admits_natural {held : UInt64} :
    JsonType.integer.admits (.number (.natural held)) = true := rfl

@[simp] theorem admits_object {members : List (String × Json)} :
    JsonType.object.admits (.object members) = true := rfl

@[simp] theorem admits_string {text : String} : JsonType.string.admits (.string text) = true := rfl

theorem admits_array_iff :
    JsonType.array.admits value = true ↔ ∃ items, value = .array items := by
  cases value <;> simp <;> rfl

theorem admits_boolean_iff :
    JsonType.boolean.admits value = true ↔ ∃ held, value = .boolean held := by
  cases value <;> simp <;> rfl

theorem admits_null_iff : JsonType.null.admits value = true ↔ value = .null := by
  cases value <;> simp <;> rfl

theorem admits_number_iff :
    JsonType.number.admits value = true ↔ ∃ held, value = .number held := by
  cases value <;> simp <;> rfl

theorem admits_object_iff :
    JsonType.object.admits value = true ↔ ∃ members, value = .object members := by
  cases value <;> simp <;> rfl

theorem admits_string_iff :
    JsonType.string.admits value = true ↔ ∃ held, value = .string held := by
  cases value <;> simp <;> rfl

/-! ## Keywords -/

@[simp] theorem allows_title {text : String} : Allows (.title text) value := rfl

@[simp] theorem allows_description {text : String} : Allows (.description text) value := rfl

@[simp] theorem allows_format {name : String} : Allows (.format name) value := rfl

@[simp] theorem allows_default {default : Json} : Allows (.default default) value := rfl

@[simp] theorem allows_type {admitted : List JsonType} :
    Allows (.type admitted) value ↔ ∃ type ∈ admitted, type.admits value = true := by
  simp [Allows, keywordViolations]

theorem allows_type_or_null {type : JsonType} :
    Allows (.type [type, .null]) value ↔ value = .null ∨ type.admits value = true := by
  simp [admits_null_iff, or_comm]

@[simp] theorem allows_const {text : String} :
    Allows (.const text) value ↔ value = .string text := by
  cases value <;> simp [Allows, keywordViolations, isText]

@[simp] theorem allows_enumeration {texts : List String} :
    Allows (.enumeration texts) value ↔ ∃ text ∈ texts, value = .string text := by
  cases value <;> simp [Allows, keywordViolations, isText]

@[simp] theorem allows_reference {name : String} :
    Allows (.reference name schema) value ↔ schema.Admits value := by
  simp only [Allows, keywordViolations, Admits]

/-- Members of other names are not asked for anything. -/
@[simp] theorem allows_properties {members : List (String × Schema)} :
    Allows (.properties members) value ↔
      ∀ entry ∈ members, ∀ member ∈ value.get? entry.1, entry.2.Admits member := by
  simp only [Allows, keywordViolations]
  induction members with
  | nil => simp [memberViolations]
  | cons entry rest ih =>
      obtain ⟨name, schema⟩ := entry
      cases held : value.get? name with
      | none => simp [memberViolations, ih, held]
      | some member => simp [memberViolations, ih, held, violations_eq_nil_iff]

@[simp] theorem allows_anyOf {alternatives : List Schema} :
    Allows (.anyOf alternatives) value ↔ ∃ schema ∈ alternatives, schema.Admits value := by
  simp [Allows, keywordViolations, satisfied_eq_countP]

@[simp] theorem allows_oneOf {alternatives : List Schema} :
    Allows (.oneOf alternatives) value ↔
      alternatives.countP (fun schema => schema.Admits value) = 1 := by
  simp only [Allows, keywordViolations, satisfied_eq_countP]
  split
  · rename_i none
    simp [none]
  · rename_i one
    simp [one]
  · rename_i one
    simpa using one

theorem exists_of_allows_oneOf {alternatives : List Schema}
    (allows : Allows (.oneOf alternatives) value) : ∃ schema ∈ alternatives, schema.Admits value := by
  have counted : 0 < alternatives.countP fun schema => schema.Admits value := by
    rw [allows_oneOf.mp allows]
    exact Nat.one_pos
  simpa using List.countP_pos_iff.mp counted

@[simp] theorem allows_minimum {least : Nat} :
    Allows (.minimum least) value ↔ isBelow least value = false := by
  simp [Allows, keywordViolations]

@[simp] theorem allows_maxItems {count : Nat} :
    Allows (.maxItems count) value ↔ ∀ items, value = .array items → items.length ≤ count := by
  cases value <;> simp [Allows, keywordViolations, itemCount?]

@[simp] theorem allows_minItems {count : Nat} :
    Allows (.minItems count) value ↔ ∀ items, value = .array items → count ≤ items.length := by
  cases value <;> simp [Allows, keywordViolations, itemCount?]

@[simp] theorem allows_items :
    Allows (.items schema) value ↔
      ∀ items, value = .array items → ∀ item ∈ items, schema.Admits item := by
  cases value with
  | array items =>
      have agree : ∀ (index : Nat) (item : Json),
          violations ([] ++ [toString index]) item schema = [] ↔ schema.Admits item :=
        fun _ _ => violations_eq_nil_iff
      simp only [Allows, keywordViolations, Json.array.injEq, forall_eq']
      exact eachItem_eq_nil_iff agree
  | null | boolean | number | string | object => simp [Allows, keywordViolations]

@[simp] theorem allows_prefixItems {firsts : List Schema} :
    Allows (.prefixItems firsts) value ↔
      ∀ items, value = .array items → ∀ pair ∈ items.zip firsts, pair.2.Admits pair.1 := by
  have each : ∀ (items : List Json) (index : Nat),
      prefixViolations [] index items firsts = [] ↔
        ∀ pair ∈ items.zip firsts, pair.2.Admits pair.1 := by
    induction firsts with
    | nil => simp [prefixViolations]
    | cons first rest ih =>
        intro items index
        cases items with
        | nil => simp [prefixViolations]
        | cons item others => simp [prefixViolations, ih, violations_eq_nil_iff]
  cases value with
  | array items => simpa [Allows, keywordViolations] using each items 0
  | null | boolean | number | string | object => simp [Allows, keywordViolations]

@[simp] theorem allows_closed {members : List String} :
    Allows (.closed members) value ↔
      ∀ entries, value = .object entries → ∀ entry ∈ entries, entry.1 ∈ members := by
  have nothing : Allows (.closed members) value ↔ superfluous members value = [] := by
    simp only [Allows, keywordViolations]
    split
    · rename_i none
      simp [none]
    · rename_i some
      simpa using some
  rw [nothing]
  cases value <;> simp [superfluous]

@[simp] theorem allows_required {names : List String} :
    Allows (.required names) value ↔
      ∀ entries, value = .object entries → ∀ name ∈ names, Json.lookup name entries ≠ none := by
  cases value <;> simp [Allows, keywordViolations, missing]

end

end FigureScript.Schema
