import FigureScript.Json.Basic

namespace FigureScript.Json

/-! # Leaving members out

Members of objects anywhere in a value, named by the way that leads to them, are left out all at once;
items of arrays stay. What is found in the value that is left follows from what was found before.
-/

/-- One step into a value. -/
inductive Step where
  | member (name : String)
  | item (index : Nat)
  deriving DecidableEq, Repr

abbrev Path := List Step

/-- The paths that go on from a step. -/
def beyond (step : Step) (gone : Path → Bool) (path : Path) : Bool := gone (step :: path)

mutual

/-- The value without the members at the paths that are gone. -/
def without (gone : Path → Bool) : Json → Json
  | .array items => .array (withoutItems gone 0 items)
  | .object members => .object (withoutMembers gone members)
  | .null => .null
  | .boolean value => .boolean value
  | .number value => .number value
  | .string value => .string value

def withoutItems (gone : Path → Bool) (index : Nat) : List Json → List Json
  | [] => []
  | item :: rest =>
    without (beyond (.item index) gone) item :: withoutItems gone (index + 1) rest

def withoutMembers (gone : Path → Bool) : List (String × Json) → List (String × Json)
  | [] => []
  | (name, value) :: rest =>
    if gone [.member name] then withoutMembers gone rest
    else (name, without (beyond (.member name) gone) value) :: withoutMembers gone rest

end

variable {gone : Path → Bool} {name : String} {members : List (String × Json)}

theorem lookup_withoutMembers :
    lookup name (withoutMembers gone members) =
      if gone [.member name] then none
      else (lookup name members).map (without (beyond (.member name) gone)) := by
  induction members with
  | nil => simp [withoutMembers, lookup]
  | cons member rest ih =>
      obtain ⟨other, value⟩ := member
      by_cases same : other = name
      · subst same
        by_cases omitted : gone [.member other] = true
        · rw [withoutMembers, if_pos omitted, ih, if_pos omitted, if_pos omitted]
        · simp [withoutMembers, lookup, omitted]
      · have skipped : lookup name ((other, value) :: rest) = lookup name rest := by
          rw [lookup, if_neg same]
        rw [skipped, ← ih, withoutMembers]
        split
        · rfl
        · rw [lookup, if_neg same]

theorem lookup_of_kept (kept : gone [.member name] = false) :
    lookup name (withoutMembers gone members) =
      (lookup name members).map (without (beyond (.member name) gone)) := by
  rw [lookup_withoutMembers, kept]
  rfl

theorem get?_without (document : Json) :
    (document.without gone).get? name =
      if gone [.member name] then none
      else (document.get? name).map (without (beyond (.member name) gone)) := by
  cases document with
  | object members => exact lookup_withoutMembers
  | null | boolean | number | string | array => simp [without, get?]

theorem getElem?_withoutItems {items : List Json} {start place : Nat} :
    (withoutItems gone start items)[place]? =
      items[place]?.map (without (beyond (.item (start + place)) gone)) := by
  induction items generalizing start place with
  | nil => rfl
  | cons item rest ih =>
      rw [withoutItems]
      cases place with
      | zero => rfl
      | succ place =>
          rw [List.getElem?_cons_succ, List.getElem?_cons_succ, ih, Nat.add_right_comm]
          rfl

theorem mem_withoutItems {items : List Json} {value : Json} :
    value ∈ withoutItems gone 0 items ↔
      ∃ (place : Nat) (held : Json), items[place]? = some held ∧
        held.without (beyond (.item place) gone) = value := by
  rw [List.mem_iff_getElem?]
  refine exists_congr fun place => ?_
  rw [getElem?_withoutItems, Nat.zero_add, Option.map_eq_some_iff]

/-- No path but perhaps the one to the whole value is gone. -/
def Untouched (gone : Path → Bool) : Prop := ∀ step path, gone (step :: path) = false

theorem Untouched.beyond (untouched : Untouched gone) (step : Step) : Untouched (beyond step gone) :=
  fun next path => untouched step (next :: path)

mutual

theorem without_eq_self (gone : Path → Bool) (untouched : Untouched gone) :
    (document : Json) → document.without gone = document
  | .array items => by rw [without, withoutItems_eq_self gone untouched 0 items]
  | .object members => by rw [without, withoutMembers_eq_self gone untouched members]
  | .null | .boolean _ | .number _ | .string _ => by rw [without]

theorem withoutItems_eq_self (gone : Path → Bool) (untouched : Untouched gone) (index : Nat) :
    (items : List Json) → withoutItems gone index items = items
  | [] => by rw [withoutItems]
  | item :: rest => by
      rw [withoutItems, without_eq_self _ (untouched.beyond _) item,
        withoutItems_eq_self gone untouched (index + 1) rest]

theorem withoutMembers_eq_self (gone : Path → Bool) (untouched : Untouched gone) :
    (members : List (String × Json)) → withoutMembers gone members = members
  | [] => by rw [withoutMembers]
  | (name, value) :: rest => by
      rw [withoutMembers, untouched (.member name) [], without_eq_self _ (untouched.beyond _) value,
        withoutMembers_eq_self gone untouched rest]
      rfl

end

end FigureScript.Json
