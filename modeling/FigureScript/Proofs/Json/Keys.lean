import FigureScript.Json.Reader
import FigureScript.Proofs.Fallible
import Mathlib.Data.String.Basic

namespace FigureScript.Json

/-! # Keys of objects

A value that is read from a text has each key of an object once: members are put in the order of
their keys, and a key that is there already gets its new value in place.
-/

mutual

/-- No object in the value has a key twice. -/
def KeysOnce : Json → Prop
  | .null | .boolean _ | .number _ | .string _ => True
  | .array items => KeysOnceEach items
  | .object members => (members.map Prod.fst).Nodup ∧ KeysOnceMembers members

def KeysOnceEach : List Json → Prop
  | [] => True
  | item :: rest => KeysOnce item ∧ KeysOnceEach rest

def KeysOnceMembers : List (String × Json) → Prop
  | [] => True
  | (_, value) :: rest => KeysOnce value ∧ KeysOnceMembers rest

end

theorem keysOnce_array {items : List Json} :
    KeysOnce (.array items) ↔ ∀ item ∈ items, item.KeysOnce := by
  have each : KeysOnceEach items ↔ ∀ item ∈ items, item.KeysOnce := by
    induction items with
    | nil => simp [KeysOnceEach]
    | cons item rest ih => simp [KeysOnceEach, ih]
  simpa only [KeysOnce] using each

theorem keysOnce_object {members : List (String × Json)} :
    KeysOnce (.object members) ↔
      (members.map Prod.fst).Nodup ∧ ∀ member ∈ members, member.2.KeysOnce := by
  have each : KeysOnceMembers members ↔ ∀ member ∈ members, member.2.KeysOnce := by
    induction members with
    | nil => simp [KeysOnceMembers]
    | cons member rest ih => simp [KeysOnceMembers, ih]
  rw [KeysOnce, each]

/-! ## Members in order -/

/-- The members stand in the order of their keys. -/
def Ascending (members : List (String × Json)) : Prop :=
  members.Pairwise fun first second => first.1 < second.1

theorem Ascending.nodup {members : List (String × Json)} (ascending : Ascending members) :
    (members.map Prod.fst).Nodup :=
  List.pairwise_map.mpr (ascending.imp fun below => ne_of_lt below)

theorem mem_insert {key : String} {value : Json} {members : List (String × Json)}
    {member : String × Json} (inside : member ∈ insert key value members) :
    member = (key, value) ∨ member ∈ members := by
  induction members with
  | nil => simpa [insert] using inside
  | cons first rest ih =>
      rw [insert] at inside
      split at inside
      · grind
      · split at inside
        · grind
        · grind

theorem Ascending.insert {members : List (String × Json)} (ascending : Ascending members)
    (key : String) (value : Json) : Ascending (insert key value members) := by
  induction members with
  | nil => simp [Json.insert, Ascending]
  | cons first rest ih =>
      obtain ⟨name, present⟩ := first
      obtain ⟨least, others⟩ := List.pairwise_cons.mp ascending
      rw [Json.insert]
      split
      · rename_i same
        subst same
        exact List.pairwise_cons.mpr ⟨least, others⟩
      · rename_i different
        split
        · rename_i below
          refine List.pairwise_cons.mpr ⟨?_, ascending⟩
          intro member inside
          rcases List.mem_cons.mp inside with rfl | later
          · exact below
          · exact lt_trans below (least member later)
        · rename_i notBelow
          refine List.pairwise_cons.mpr ⟨?_, ih others⟩
          intro member inside
          rcases mem_insert inside with rfl | later
          · exact lt_of_le_of_ne (not_lt.mp notBelow) (Ne.symm different)
          · exact least member later

/-- However the members are listed, the object has each of their keys once. -/
theorem keysOnce_ofMembers {members : List (String × Json)}
    (each : ∀ member ∈ members, member.2.KeysOnce) : (ofMembers members).KeysOnce := by
  have sorted : ∀ start : List (String × Json), Ascending start →
      (∀ member ∈ start, member.2.KeysOnce) →
      (Json.object (members.foldl (fun sorted member => insert member.1 member.2 sorted)
        start)).KeysOnce := by
    induction members with
    | nil => exact fun start ascending held => keysOnce_object.mpr ⟨ascending.nodup, held⟩
    | cons first rest ih =>
        intro start ascending held
        refine ih (fun member inside => each member (by simp [inside])) _ (ascending.insert _ _) ?_
        intro member inside
        rcases mem_insert inside with rfl | earlier
        · exact each first (by simp)
        · exact held member earlier
  exact sorted [] List.Pairwise.nil (by simp)

/-! ## Values that are read -/

namespace Reader

variable {α β : Type}

/-- Whatever the reader gives back has the property. -/
def Returns (reader : Reader α) (property : α → Prop) : Prop :=
  ∀ cursor value after, reader.run cursor = .ok (value, after) → property value

variable {property : α → Prop} {other : β → Prop}

theorem returns_pure {value : α} (held : property value) :
    Returns (pure value : Reader α) property := by
  intro cursor result after run
  cases run
  exact held

theorem returns_failThere {fault : Fault} : Returns (failThere fault : Reader α) property := by
  intro cursor result after run
  contradiction

/-- What the first reader gives back is known when the next one starts. -/
theorem Returns.bind {first : Reader α} {next : α → Reader β} (returns : first.Returns property)
    (others : ∀ value, property value → (next value).Returns other) :
    (first >>= next).Returns other := by
  intro cursor result after run
  rw [StateT.run_bind] at run
  obtain ⟨⟨value, between⟩, own, rest⟩ := Fallible.bind_eq_ok_iff.mp run
  exact others value (returns cursor value between own) between result after rest

theorem returns_any {reader : Reader α} : reader.Returns fun _ => True := fun _ _ _ _ => trivial

/-- It does not matter what the first reader gives back. -/
theorem returns_after {first : Reader α} {next : α → Reader β}
    (others : ∀ value, (next value).Returns other) : (first >>= next).Returns other :=
  returns_any.bind fun value _ => others value

/-- By induction on the steps, for values, items and members at once, since each of them reads the
others. -/
theorem returns_keysOnce (steps : Nat) :
    (∀ depth, (value steps depth).Returns KeysOnce) ∧
    (∀ depth first, (items steps depth first).Returns fun items => ∀ item ∈ items, item.KeysOnce) ∧
    ∀ depth first, (members steps depth first).Returns fun members =>
      ∀ member ∈ members, member.2.KeysOnce := by
  induction steps with
  | zero =>
      refine ⟨fun depth => ?_, fun depth first => ?_, fun depth first => ?_⟩
      · exact returns_failThere
      · exact returns_failThere
      · exact returns_failThere
  | succ steps ih =>
      obtain ⟨values, lists, objects⟩ := ih
      refine ⟨fun depth => ?_, fun depth first => ?_, fun depth first => ?_⟩
      -- Scalars have no keys; what a list or an object has comes from the reader of its parts.
      · unfold value
        refine returns_after fun byte => ?_
        split
        · exact returns_failThere
        · exact returns_after fun _ => returns_after fun _ => returns_pure trivial
        · exact returns_after fun _ => returns_after fun _ => returns_pure trivial
        · exact returns_after fun _ => returns_after fun _ => returns_pure trivial
        · exact returns_after fun _ => returns_after fun _ => returns_pure trivial
        · exact returns_after fun _ => returns_after fun _ => returns_pure trivial
        · cases depth with
          | zero => exact returns_failThere
          | succ deeper =>
              refine returns_after fun _ => (lists deeper true).bind fun items each => ?_
              exact returns_after fun _ => returns_pure (keysOnce_array.mpr each)
        · cases depth with
          | zero => exact returns_failThere
          | succ deeper =>
              refine returns_after fun _ => (objects deeper true).bind fun members each => ?_
              exact returns_after fun _ => returns_pure (keysOnce_ofMembers each)
        · split
          · exact returns_after fun _ => returns_pure trivial
          · exact returns_failThere
      · unfold items
        refine returns_after fun more => ?_
        split
        · refine (values depth).bind fun item own => (lists depth false).bind fun rest each => ?_
          exact returns_pure (List.forall_mem_cons.mpr ⟨own, each⟩)
        · exact returns_pure (by simp)
      · unfold members
        refine returns_after fun more => ?_
        split
        · refine returns_after fun name => returns_after fun _ => ?_
          refine (values depth).bind fun content own => ?_
          refine (objects depth false).bind fun rest each => ?_
          exact returns_pure (List.forall_mem_cons.mpr ⟨own, each⟩)
        · exact returns_pure (by simp)

end Reader

theorem keysOnce_of_parse {text : String} {document : Json} (read : parse text = .ok document) :
    document.KeysOnce := by
  have returns : Reader.document.Returns KeysOnce := by
    refine Reader.returns_after fun cursor => ?_
    refine ((Reader.returns_keysOnce _).1 Reader.depthLimit).bind fun result own => ?_
    exact Reader.returns_after fun _ => Reader.returns_pure own
  unfold parse at read
  split at read
  · rename_i result after run
    cases read
    exact returns _ _ _ run
  · contradiction

end FigureScript.Json
