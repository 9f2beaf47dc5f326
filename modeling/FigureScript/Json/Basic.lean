/-!
# JSON values

A JSON document as a value. Whole numbers that fit 64 bits stay apart from all other numbers, and the
members of an object are kept in the order of their keys, each key once.
-/

namespace FigureScript

inductive JsonNumber where
  | natural (value : UInt64)
  | negative (value : Int64) (below : value < 0)
  | float (value : Float)

inductive Json where
  | null
  | boolean (value : Bool)
  | number (value : JsonNumber)
  | string (value : String)
  | array (items : List Json)
  | object (members : List (String × Json))

namespace Json

def lookup (key : String) : List (String × Json) → Option Json
  | [] => none
  | (name, value) :: rest => if name = key then some value else lookup key rest

/-- Put a member in its place among members sorted by key; an earlier value of the key is
replaced. -/
def insert (key : String) (value : Json) : List (String × Json) → List (String × Json)
  | [] => [(key, value)]
  | (name, present) :: rest =>
    if key = name then (key, value) :: rest
    else if key < name then (key, value) :: (name, present) :: rest
    else (name, present) :: insert key value rest

/-- The object of the given members, in any order; of equal keys the last one counts. -/
def ofMembers (members : List (String × Json)) : Json :=
  object (members.foldl (fun sorted member => insert member.1 member.2 sorted) [])

/-- The entry of an object; `none` for any other value. -/
def get? (document : Json) (key : String) : Option Json :=
  match document with
  | object members => lookup key members
  | _ => none

/-- The whole number held by a natural number of the host. -/
def ofNat (value : Nat) : Json := number (.natural (UInt64.ofNat value))

theorem lookup_insert_self (key : String) (value : Json) (members : List (String × Json)) :
    lookup key (insert key value members) = some value := by
  induction members with
  | nil => simp [insert, lookup]
  | cons member rest ih =>
      obtain ⟨name, present⟩ := member
      simp only [insert]
      split
      · simp [lookup]
      · split
        · simp [lookup]
        · rename_i different _
          simp [lookup, Ne.symm different, ih]

theorem lookup_insert_of_ne {key other : String} (different : other ≠ key) (value : Json)
    (members : List (String × Json)) :
    lookup other (insert key value members) = lookup other members := by
  induction members with
  | nil => simp [insert, lookup, Ne.symm different]
  | cons member rest ih =>
      obtain ⟨name, present⟩ := member
      simp only [insert]
      split
      · rename_i same
        subst same
        simp [lookup, Ne.symm different]
      · split
        · simp [lookup, Ne.symm different]
        · simp only [lookup, ih]

end Json

end FigureScript
