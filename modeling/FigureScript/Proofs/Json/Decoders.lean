import FigureScript.Figure.Encode
import FigureScript.Proofs.Figure.Numbers

namespace FigureScript.Json

open Binary64 (AllFinite)

/-! # Reading back what was written

The decoders undo the encoders they belong to. The fields of a record are read one after the other,
each from the member of its name.
-/

namespace Decoder

variable {α : Type} {decoder : Decoder α} {encode : α → Json}

theorem float_ofFloat {value : Float} (finite : Binary64.isFinite value = true) :
    float (ofFloat value) = .ok value := by
  simp [ofFloat, finite, float, ofNumber]

theorem optional_ofOption {value : Option α}
    (reads : ∀ present ∈ value, decoder (encode present) = .ok present)
    (visible : ∀ present ∈ value, encode present ≠ .null) :
    optional decoder (ofOption encode value) = .ok value := by
  cases value with
  | none => rfl
  | some present =>
      have read := reads present rfl
      have shown := visible present rfl
      cases written : encode present with
      | null => contradiction
      | boolean | number | string | array | object =>
          rw [written] at read
          simp [ofOption, written, optional, read, Except.map]

theorem optional_ofText (value : Option String) : optional text (ofText value) = .ok value :=
  optional_ofOption (fun _ _ => rfl) fun _ _ => by simp

theorem optional_ofFloat {value : Option Float} (finite : AllFinite value.toList) :
    optional float (ofOption ofFloat value) = .ok value := by
  have each : ∀ present ∈ value, Binary64.isFinite present = true :=
    fun present given => finite present (Option.mem_toList.mpr given)
  refine optional_ofOption (fun present given => float_ofFloat (each present given)) ?_
  intro present given
  simp [ofFloat, each present given]

theorem list_ofList {values : List α} (reads : ∀ value ∈ values, decoder (encode value) = .ok value) :
    list decoder (ofList encode values) = .ok values := by
  change items decoder (values.map encode) = .ok values
  induction values with
  | nil => rfl
  | cons value rest ih =>
      have first := reads value (by simp)
      have others := ih fun other member => reads other (by simp [member])
      simp only [List.map_cons, items, first, others, bind, Except.bind, pure, Except.pure]

theorem list_ofFloats {values : List Float} (finite : AllFinite values) :
    list float (ofList ofFloat values) = .ok values :=
  list_ofList fun value member => float_ofFloat (finite value member)

theorem optional_ofNumbers {values : Option (List Float)} (finite : AllFinite (values.getD [])) :
    optional (list float) (ofNumbers values) = .ok values := by
  refine optional_ofOption (fun present given => list_ofFloats ?_) fun _ _ => by simp [ofList]
  rw [Option.mem_def.mp given] at finite
  exact finite

theorem optional_ofPair {pair : Option (Float × Float)} (finite : AllFinite (pairNumbers pair)) :
    optional (Decoder.pair float) (ofOption ofPair pair) = .ok pair := by
  refine optional_ofOption (fun present given => ?_) fun _ _ => by simp [ofPair]
  rw [Option.mem_def.mp given] at finite
  obtain ⟨first, second⟩ :
      Binary64.isFinite present.1 = true ∧ Binary64.isFinite present.2 = true := by
    simpa [pairNumbers] using finite
  simp only [ofPair, Decoder.pair, float_ofFloat first, float_ofFloat second, bind, Except.bind]
  rfl

end Decoder

namespace Record

/-- The first field is read from its member, the others follow. -/
theorem read_field {α β : Type} {document member : Json} {members : List (String × Json)}
    {name : String} {decoder : Decoder α} {default value : α} {next : α → Except DataFault β}
    {result : Except DataFault β} (object : document = .object members)
    (present : document.get? name = some member) (reads : decoder member = .ok value)
    (others : next value = result) : (field members name decoder default >>= next) = result := by
  subst object
  have found : lookup name members = some member := present
  simp only [field, found, reads, bind, Except.bind, others]

end Record

end FigureScript.Json
