import FigureScript.Json.Record
import FigureScript.Proofs.Fallible
import FigureScript.Proofs.Figure.Numbers
import FigureScript.Proofs.Number.Finite

namespace FigureScript.Json

open Binary64 (AllFinite)

/-! # What decoders can return

JSON has no text for an infinity, so that all doubles in a value are finite. What a decoder makes of
such a value has a property if the decoder yields that property.
-/

mutual

/-- Every double in the value is finite. -/
def Finite : Json → Prop
  | .null | .boolean _ | .string _ | .number (.natural _) | .number (.negative _ _) => True
  | .number (.float value) => Binary64.isFinite value = true
  | .array items => FiniteEach items
  | .object members => FiniteMembers members

def FiniteEach : List Json → Prop
  | [] => True
  | item :: rest => Finite item ∧ FiniteEach rest

def FiniteMembers : List (String × Json) → Prop
  | [] => True
  | (_, value) :: rest => Finite value ∧ FiniteMembers rest

end

theorem finite_array {items : List Json} : Finite (.array items) ↔ ∀ item ∈ items, item.Finite := by
  have each : FiniteEach items ↔ ∀ item ∈ items, item.Finite := by
    induction items with
    | nil => simp [FiniteEach]
    | cons item rest ih => simp [FiniteEach, ih]
  simpa only [Finite] using each

theorem finite_object {members : List (String × Json)} :
    Finite (.object members) ↔ ∀ member ∈ members, member.2.Finite := by
  have each : FiniteMembers members ↔ ∀ member ∈ members, member.2.Finite := by
    induction members with
    | nil => simp [FiniteMembers]
    | cons member rest ih => simp [FiniteMembers, ih]
  simpa only [Finite] using each

theorem mem_of_lookup {name : String} {value : Json} {members : List (String × Json)}
    (found : lookup name members = some value) : (name, value) ∈ members := by
  induction members with
  | nil => contradiction
  | cons member rest ih =>
      obtain ⟨key, held⟩ := member
      rw [lookup] at found
      split at found
      · rename_i same
        cases found
        simp [same]
      · exact List.mem_cons_of_mem _ (ih found)

/-- Whatever the decoder returns for a value with finite doubles has the property. -/
def Decoder.Yields {α : Type} (decoder : Decoder α) (property : α → Prop) : Prop :=
  ∀ document, document.Finite → ∀ value, decoder document = .ok value → property value

namespace Decoder

variable {α β : Type} {decoder : Decoder α} {property : α → Prop}

theorem Yields.mono {other : α → Prop} (yields : decoder.Yields property)
    (weaker : ∀ value, property value → other value) : decoder.Yields other :=
  fun document finite value read => weaker value (yields document finite value read)

theorem Yields.map {wrap : α → β} {other : β → Prop} (yields : decoder.Yields property)
    (wrapped : ∀ value, property value → other (wrap value)) :
    Yields (fun document => (decoder document).map wrap) other := by
  intro document finite value read
  obtain ⟨content, inner, rfl⟩ := Fallible.map_eq_ok_iff.mp read
  exact wrapped content (yields document finite content inner)

theorem yields_float : float.Yields fun value => Binary64.isFinite value = true := by
  intro document finite value read
  cases document with
  | number held =>
      cases read
      cases held with
      | natural size => exact Binary64.isFinite_ofNat size.toNat_lt
      | negative size below =>
          have least := size.le_toInt
          have greatest := size.toInt_lt
          exact Binary64.isFinite_ofInt (by omega)
      | float value =>
          rw [Finite] at finite
          exact finite
  | null | boolean | string | array | object => contradiction

theorem Yields.optional (yields : decoder.Yields property) :
    (optional decoder).Yields fun value => ∀ present ∈ value, property present := by
  have given : Yields (fun document => (decoder document).map some)
      fun value => ∀ present ∈ value, property present := yields.map (by simp)
  intro document finite value read
  cases document with
  | null =>
      cases read
      simp
  | boolean | number | string | array | object => exact given _ finite value read

theorem Yields.list (yields : decoder.Yields property) :
    (list decoder).Yields fun values => ∀ value ∈ values, property value := by
  intro document finite values read
  cases document with
  | array items =>
      rw [finite_array] at finite
      change Decoder.items decoder items = .ok values at read
      induction items generalizing values with
      | nil =>
          cases read
          simp
      | cons item rest ih =>
          obtain ⟨first, one, read⟩ := Fallible.bind_eq_ok_iff.mp read
          obtain ⟨others, each, read⟩ := Fallible.bind_eq_ok_iff.mp read
          cases read
          rw [List.forall_mem_cons] at finite ⊢
          exact ⟨yields item finite.1 first one, ih others finite.2 each⟩
  | null | boolean | number | string | object => contradiction

theorem eq_of_list_eq_nil {document : Json} (read : list decoder document = .ok []) :
    document = .array [] := by
  cases document with
  | array items =>
      cases items with
      | nil => rfl
      | cons item rest =>
          obtain ⟨_, _, read⟩ := Fallible.bind_eq_ok_iff.mp read
          obtain ⟨_, _, read⟩ := Fallible.bind_eq_ok_iff.mp read
          cases read
  | null | boolean | number | string | object => contradiction

theorem Yields.pair (yields : decoder.Yields property) :
    (pair decoder).Yields fun values => property values.1 ∧ property values.2 := by
  intro document finite values read
  cases document with
  | array items =>
      rw [finite_array] at finite
      match items with
      | [] => contradiction
      | [only] =>
          obtain ⟨_, _, read⟩ := Fallible.bind_eq_ok_iff.mp read
          contradiction
      | first :: second :: rest =>
          obtain ⟨one, left, read⟩ := Fallible.bind_eq_ok_iff.mp read
          obtain ⟨two, right, read⟩ := Fallible.bind_eq_ok_iff.mp read
          split at read
          · cases read
            exact ⟨yields first (finite _ (by simp)) _ left, yields second (finite _ (by simp)) _ right⟩
          · contradiction
  | null | boolean | number | string | object => contradiction

end Decoder

namespace Record

variable {α β : Type} {property : α → Prop}

/-- The same for what a record is read from. -/
def Yields (record : Record α) (property : α → Prop) : Prop :=
  ∀ members : List (String × Json), (∀ member ∈ members, member.2.Finite) →
    ∀ value, record.read members = .ok value → property value

/-- A record that is written as an array gets its members from the names of its fields. -/
theorem Yields.decode {record : Record α} (yields : record.Yields property) (place : Place) :
    (record.decode place).Yields property := by
  intro document finite value read
  cases document with
  | object members => exact yields members (finite_object.mp finite) value read
  | array items =>
      rw [finite_array] at finite
      obtain ⟨_, _, read⟩ := Fallible.bind_eq_ok_iff.mp read
      split at read
      · cases place <;> contradiction
      · refine yields _ (fun member inside => ?_) value read
        exact finite member.2 (List.of_mem_zip inside).2
  | null | boolean | number | string => contradiction

/-- A field is what its decoder yields or its default, and the others are read behind it. -/
theorem exists_of_field {members : List (String × Json)} {name : String} {decoder : Decoder α}
    {default : α} {next : α → Except DataFault β} {result : β}
    (read : (field members name decoder default >>= next) = .ok result)
    (finite : ∀ member ∈ members, member.2.Finite) (yields : decoder.Yields property)
    (fallback : property default) : ∃ value, property value ∧ next value = .ok result := by
  obtain ⟨value, own, others⟩ := Fallible.bind_eq_ok_iff.mp read
  refine ⟨value, ?_, others⟩
  cases found : lookup name members with
  | none =>
      simp only [field, found, Except.ok.injEq] at own
      exact own ▸ fallback
  | some member =>
      simp only [field, found] at own
      exact yields member (finite _ (mem_of_lookup found)) value own

end Record

end FigureScript.Json
