import FigureScript.Proofs.Json.Keys
import FigureScript.Proofs.Json.Yields

namespace FigureScript.Json

open Fallible (Succeeds)

/-! # What decoders accept

A value can be of the form that a decoder asks for and still be refused: a size has to be held as a
natural number, and a double is none, whatever it is. `Decoder.Accepts` says that nothing else goes
wrong with values of a certain form, and where in them the sizes stand.
-/

/-- The number is held as a size is. -/
def IsSize (value : Json) : Prop := ∃ size, value = .number (.natural size)

/-- A whole number that is held as a double. -/
def IsWholeFloat (value : Json) : Prop :=
  ∃ held, value = .number (.float held) ∧ Binary64.isWhole held = true

theorem IsWholeFloat.not_isSize {value : Json} (whole : value.IsWholeFloat) : ¬ value.IsSize := by
  obtain ⟨held, rfl, -⟩ := whole
  rintro ⟨size, same⟩
  cases same

/-- The items of an array. -/
def elements : Json → List Json
  | .array items => items
  | .null | .boolean _ | .number _ | .string _ | .object _ => []

/-- The entry of an object, if there is one. -/
def member (name : String) (value : Json) : List Json := (value.get? name).toList

variable {α β : Type} {form : Json → Prop} {sizes : Json → List Json}

/-- Values of the form are accepted if the sizes in them are held as sizes are. -/
def Decoder.Accepts (decoder : Decoder α) (form : Json → Prop) (sizes : Json → List Json) : Prop :=
  ∀ value, value.KeysOnce → form value →
    (Succeeds (decoder value) ↔ ∀ size ∈ sizes value, size.IsSize)

/-- All values of the form are accepted. -/
def Decoder.AcceptsAll (decoder : Decoder α) (form : Json → Prop) : Prop :=
  ∀ value, value.KeysOnce → form value → Succeeds (decoder value)

namespace Decoder

variable {decoder : Decoder α}

theorem acceptsAll_iff : decoder.AcceptsAll form ↔ decoder.Accepts form fun _ => [] := by
  simp [AcceptsAll, Accepts]

theorem Accepts.mono {other : Json → Prop} (accepts : decoder.Accepts form sizes)
    (narrower : ∀ value, other value → form value) : decoder.Accepts other sizes :=
  fun value keys given => accepts value keys (narrower value given)

theorem AcceptsAll.mono {other : Json → Prop} (accepts : decoder.AcceptsAll form)
    (narrower : ∀ value, other value → form value) : decoder.AcceptsAll other :=
  fun value keys given => accepts value keys (narrower value given)

theorem Accepts.map (accepts : decoder.Accepts form sizes) (wrap : α → β) :
    Accepts (fun value => (decoder value).map wrap) form sizes :=
  fun value keys given => Fallible.succeeds_map_iff.trans (accepts value keys given)

theorem acceptsAll_text : text.AcceptsAll fun value => ∃ held, value = .string held := by
  rintro _ _ ⟨held, rfl⟩
  exact ⟨held, rfl⟩

theorem acceptsAll_truth : truth.AcceptsAll fun value => ∃ held, value = .boolean held := by
  rintro _ _ ⟨held, rfl⟩
  exact ⟨held, rfl⟩

theorem acceptsAll_float : float.AcceptsAll fun value => ∃ held, value = .number held := by
  rintro _ _ ⟨held, rfl⟩
  exact ⟨ofNumber held, rfl⟩

theorem acceptsAll_pair : (pair float).AcceptsAll fun value =>
    ∃ first second, value = .array [.number first, .number second] := by
  rintro _ _ ⟨first, second, rfl⟩
  exact ⟨(ofNumber first, ofNumber second), rfl⟩

/-- A size is accepted or not by itself. -/
theorem accepts_size : size.Accepts (fun _ => True) fun value => [value] := by
  intro value _ _
  rw [List.forall_mem_singleton]
  constructor
  · rintro ⟨held, read⟩
    unfold size at read
    split at read
    · exact ⟨_, rfl⟩
    · contradiction
    · contradiction
  · rintro ⟨held, rfl⟩
    exact ⟨held, rfl⟩

theorem Accepts.optional (accepts : decoder.Accepts form sizes) (none : sizes .null = []) :
    (optional decoder).Accepts (fun value => value = .null ∨ form value) sizes := by
  intro value keys given
  cases value with
  | null => simp [none, Decoder.optional, Succeeds]
  | boolean | number | string | array | object =>
      have form := given.resolve_left (by simp)
      exact (accepts.map some) _ keys form

theorem AcceptsAll.optional (accepts : decoder.AcceptsAll form) :
    (optional decoder).AcceptsAll fun value => value = .null ∨ form value :=
  acceptsAll_iff.mpr ((acceptsAll_iff.mp accepts).optional rfl)

theorem Accepts.list (accepts : decoder.Accepts form sizes) :
    (list decoder).Accepts (fun value => ∃ items, value = .array items ∧ ∀ item ∈ items, form item)
      fun value => value.elements.flatMap sizes := by
  rintro _ keys ⟨values, rfl, each⟩
  rw [keysOnce_array] at keys
  change Succeeds (items decoder values) ↔ ∀ size ∈ values.flatMap sizes, size.IsSize
  induction values with
  | nil => simp [items, Succeeds]
  | cons first rest ih =>
      rw [List.forall_mem_cons] at keys each
      have own := accepts first keys.1 each.1
      have others := ih each.2 keys.2
      rw [List.flatMap_cons, List.forall_mem_append, ← own, ← others]
      refine Fallible.succeeds_bind_iff Iff.rfl fun value => ?_
      exact Fallible.succeeds_bind_iff_first Iff.rfl fun _ => ⟨_, rfl⟩

theorem AcceptsAll.list (accepts : decoder.AcceptsAll form) :
    (list decoder).AcceptsAll fun value =>
      ∃ items, value = .array items ∧ ∀ item ∈ items, form item :=
  fun value keys given => ((acceptsAll_iff.mp accepts).list value keys given).mpr (by simp)

end Decoder

namespace Record

variable {decoder : Decoder α} {members : List (String × Json)} {name : String}
  {default : α}

theorem keysOnce_lookup {held : Json} (keys : (Json.object members).KeysOnce)
    (found : lookup name members = some held) : held.KeysOnce :=
  (keysOnce_object.mp keys).2 _ (mem_of_lookup found)

/-- A field is accepted if its member is, or if it has none. -/
theorem succeeds_field_iff (accepts : decoder.Accepts form sizes)
    (keys : (Json.object members).KeysOnce)
    (given : ∀ held ∈ (Json.object members).get? name, form held) :
    Succeeds (field members name decoder default) ↔
      ∀ size ∈ ((Json.object members).member name).flatMap sizes, size.IsSize := by
  unfold member
  cases found : (Json.object members).get? name with
  | none =>
      have missing : lookup name members = none := found
      simp [field, missing, Succeeds]
  | some held =>
      have present : lookup name members = some held := found
      have own := accepts held (keysOnce_lookup keys present) (given held found)
      simpa [field, present] using own

theorem succeeds_field (accepts : decoder.AcceptsAll form) (keys : (Json.object members).KeysOnce)
    (given : ∀ held ∈ (Json.object members).get? name, form held) :
    Succeeds (field members name decoder default) :=
  (succeeds_field_iff (Decoder.acceptsAll_iff.mp accepts) keys given).mpr (by simp)

end Record

end FigureScript.Json
