import FigureScript.Figure.Encode
import FigureScript.Proofs.Figure.Admission
import FigureScript.Proofs.Json.Omission

namespace FigureScript

open Json (Path Step without beyond Untouched)

/-! # Fields by their paths

A figure is written as records in records. A path leads from the figure to a field of one of them, and
the record tells what the default of that field is and whether it has one at all.
-/

/-- The records in the description of a figure, and the lists of series between them. -/
inductive Part where
  | figure
  | twin
  | axis
  | legend
  | style
  | grid
  | cell
  | seriesList
  | series (kind : SeriesKind)
  deriving DecidableEq, Repr

namespace Part

/-- What the record with nothing set is written as. -/
def blank : Part → Json
  | figure => Figure.toJson {}
  | twin => TwinAxis.toJson {}
  | axis => Axis.toJson {}
  | legend => Legend.toJson {}
  | style => Style.toJson {}
  | grid => Grid.toJson { rows := 0, columns := 0 }
  | cell => Cell.toJson {}
  | seriesList => .array []
  | series .line => Trace.toJson .line {}
  | series .scatter => Trace.toJson .scatter {}
  | series .bar => Bars.toJson {}
  | series .errorBand => Band.toJson {}
  | series .matrix => Matrix.toJson {}

/-- The fields that have to be given. -/
def required : Part → List String
  | grid => ["rows", "columns"]
  | series _ => ["kind"]
  | figure | twin | axis | legend | style | cell | seriesList => []

/-- The default of a field as it is written. -/
def default? (part : Part) (name : String) : Option Json :=
  if name ∈ part.required then none else part.blank.get? name

/-- The fields that hold parts of their own. -/
def parts : Part → List (String × Part)
  | figure =>
    [("legend", legend), ("series", seriesList), ("style", style), ("subplots", grid),
      ("twin", twin), ("x_axis", axis), ("y_axis", axis)]
  | twin => [("series", seriesList), ("y_axis", axis)]
  | series _ => [("position", cell)]
  | axis | legend | style | grid | cell | seriesList => []

def part? (part : Part) (name : String) : Option Part := part.parts.lookup name

def IsDefault (part : Part) (name : String) (value : Json) : Prop := part.default? name = some value

def IsRequired (part : Part) (name : String) (_ : Json) : Prop := name ∈ part.required

end Part

/-- The path leads to a field with the property. Series are told by the tags of the items they stand
in. -/
inductive FieldAt (property : Part → String → Json → Prop) : Part → Json → Path → Prop
  | own {part : Part} {document value : Json} {name : String}
      (found : document.get? name = some value) (holds : property part name value) :
      FieldAt property part document [.member name]
  | inside {part other : Part} {document value : Json} {name : String} {path : Path}
      (found : document.get? name = some value) (stands : part.part? name = some other)
      (further : FieldAt property other value path) :
      FieldAt property part document (.member name :: path)
  | item {kind : SeriesKind} {items : List Json} {index : Nat} {value : Json} {path : Path}
      (listed : items[index]? = some value)
      (tagged : value.get? "kind" = some (.string kind.name))
      (further : FieldAt property (.series kind) value path) :
      FieldAt property .seriesList (.array items) (.item index :: path)

/-- Nothing is gone but fields that have their defaults. -/
def OnlyDefaults (gone : Path → Bool) (part : Part) (document : Json) : Prop :=
  ∀ step path, gone (step :: path) = true →
    FieldAt Part.IsDefault part document (step :: path)

variable {property : Part → String → Json → Prop} {gone : Path → Bool} {part other : Part}
  {document value : Json} {name : String} {path : Path}

theorem FieldAt.ne_nil (field : FieldAt property part document path) : path ≠ [] := by
  cases field <;> exact List.cons_ne_nil _ _

namespace OnlyDefaults

theorem default?_eq (only : OnlyDefaults gone part document) (omitted : gone [.member name] = true)
    (found : document.get? name = some value) : part.default? name = some value := by
  cases only _ _ omitted with
  | own again holds =>
      rw [found, Option.some.injEq] at again
      rwa [again]
  | inside _ _ further => exact absurd rfl further.ne_nil

theorem kept (only : OnlyDefaults gone part document) (none : part.default? name = none) :
    gone [.member name] = false := by
  refine Bool.eq_false_iff.mpr fun omitted => ?_
  cases only _ _ omitted with
  | own _ holds => exact absurd (none.symm.trans holds) (by simp)
  | inside _ _ further => exact absurd rfl further.ne_nil

/-- A field that holds no part of its own stays as it is. -/
theorem untouched (only : OnlyDefaults gone part document) (leaf : part.part? name = none) :
    Untouched (beyond (.member name) gone) := by
  intro step path
  refine Bool.eq_false_iff.mpr fun omitted => ?_
  cases only _ _ omitted with
  | inside _ stands _ => exact absurd (leaf.symm.trans stands) (by simp)

theorem inside (only : OnlyDefaults gone part document) (found : document.get? name = some value)
    (stands : part.part? name = some other) :
    OnlyDefaults (beyond (.member name) gone) other value := by
  intro step path omitted
  cases only _ _ omitted with
  | inside again same further =>
      rw [found, Option.some.injEq] at again
      rw [stands, Option.some.injEq] at same
      rwa [again, same]

theorem item {kind : SeriesKind} {items : List Json} {index : Nat}
    (only : OnlyDefaults gone .seriesList (.array items)) (listed : items[index]? = some value)
    (tagged : value.get? "kind" = some (.string kind.name)) :
    OnlyDefaults (beyond (.item index) gone) (.series kind) value := by
  intro step path omitted
  cases only _ _ omitted with
  | item again other further =>
      rw [listed, Option.some.injEq] at again
      subst again
      rw [tagged, Option.some.injEq, Json.string.injEq] at other
      rwa [FigureSchema.name_injective other]

theorem untouched_item {items : List Json} {index : Nat}
    (only : OnlyDefaults gone .seriesList (.array items)) (listed : items[index]? = some value)
    (untagged : ∀ kind : SeriesKind, value.get? "kind" ≠ some (.string kind.name)) :
    Untouched (beyond (.item index) gone) := by
  intro step path
  refine Bool.eq_false_iff.mpr fun omitted => ?_
  cases only _ _ omitted with
  | @item kind _ _ _ _ again tagged _ =>
      rw [listed, Option.some.injEq] at again
      rw [← again] at tagged
      exact untagged kind tagged

/-- A value in which no fields can be found stays as it is. -/
theorem untouched_of_no_object (only : OnlyDefaults gone part document)
    (record : part ≠ .seriesList) (other : ∀ members, document ≠ .object members) :
    Untouched gone := by
  have bare : ∀ name, document.get? name = none := by
    intro name
    cases document with
    | object members => exact absurd rfl (other members)
    | null | boolean | number | string | array => rfl
  intro step path
  refine Bool.eq_false_iff.mpr fun omitted => ?_
  cases only _ _ omitted with
  | own found _ => exact absurd ((bare _).symm.trans found) (by simp)
  | inside found _ _ => exact absurd ((bare _).symm.trans found) (by simp)
  | item => exact absurd rfl record

end OnlyDefaults

end FigureScript
