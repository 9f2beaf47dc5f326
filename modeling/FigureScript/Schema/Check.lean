import FigureScript.Schema.Violation

/-!
# Checking values against schemas

`violations` lists everything in a value that breaks a schema, in the order of the keywords and, below
them, of the members and items. What goes wrong inside an alternative is not listed by itself; the
value as a whole then misses the alternatives.
-/

namespace FigureScript.Schema

/-- A text in double quotes is compared, any other value differs from all texts. -/
def isText (value : Json) (expected : String) : Bool :=
  match value with
  | .string text => text == expected
  | _ => false

/-- Numbers are compared with a least value, other values have none. -/
def isBelow (least : Nat) : Json → Bool
  | .number (.natural value) => value.toNat < least
  | .number (.negative _ _) => true
  | .number (.float value) => value < Binary64.ofNat least
  | _ => false

def itemCount? : Json → Option Nat
  | .array items => some items.length
  | _ => none

def superfluous (known : List String) : Json → List String
  | .object members => (members.map Prod.fst).filter fun name => name ∉ known
  | _ => []

def missing (required : List String) : Json → List String
  | .object members => required.filter fun name => (Json.lookup name members).isNone
  | _ => []

/-- Apply a check to the items of an array, each with its index. -/
def eachItem (check : Nat → Json → List Violation) : (index : Nat) → List Json → List Violation
  | _, [] => []
  | index, item :: rest => check index item ++ eachItem check (index + 1) rest

mutual

def keywordViolations (path : List String) (value : Json) : Keyword → List Violation
  | .type admitted =>
    if admitted.any fun type => type.admits value then [] else [⟨path, value, .wrongType admitted⟩]
  | .const text => if isText value text then [] else [⟨path, value, .wrongText text⟩]
  | .enumeration texts =>
    if texts.any (isText value) then [] else [⟨path, value, .unknownText texts⟩]
  | .properties members => memberViolations path value members
  | .reference _ definition => violations path value definition
  | .anyOf alternatives =>
    if satisfied value alternatives = 0 then [⟨path, value, .noAlternative "anyOf"⟩] else []
  | .oneOf alternatives =>
    match satisfied value alternatives with
    | 0 => [⟨path, value, .noAlternative "oneOf"⟩]
    | 1 => []
    | _ => [⟨path, value, .severalAlternatives⟩]
  | .minimum least => if isBelow least value then [⟨path, value, .tooSmall least⟩] else []
  | .maxItems count =>
    match itemCount? value with
    | some length => if count < length then [⟨path, value, .tooManyItems count⟩] else []
    | none => []
  | .minItems count =>
    match itemCount? value with
    | some length => if length < count then [⟨path, value, .tooFewItems count⟩] else []
    | none => []
  | .items item =>
    match value with
    | .array values =>
      eachItem (fun index each => violations (path ++ [toString index]) each item) 0 values
    | _ => []
  | .prefixItems firsts =>
    match value with
    | .array values => prefixViolations path 0 values firsts
    | _ => []
  | .closed members =>
    match superfluous members value with
    | [] => []
    | names => [⟨path, value, .superfluousMembers names⟩]
  | .required members =>
    (missing members value).map fun name => ⟨path, value, .missingMember name⟩
  | .title _ | .description _ | .format _ | .default _ => []

def violations (path : List String) (value : Json) : List Keyword → List Violation
  | [] => []
  | keyword :: rest => keywordViolations path value keyword ++ violations path value rest

def satisfied (value : Json) : List (List Keyword) → Nat
  | [] => 0
  | schema :: rest =>
    (if (violations [] value schema).isEmpty then 1 else 0) + satisfied value rest

/-- What the members of an object break. A member that is missing breaks nothing. -/
def memberViolations (path : List String) (value : Json) :
    List (String × List Keyword) → List Violation
  | [] => []
  | (name, schema) :: rest =>
    (match value.get? name with
      | some member => violations (path ++ [name]) member schema
      | none => []) ++ memberViolations path value rest

def prefixViolations (path : List String) (index : Nat) (items : List Json) :
    List (List Keyword) → List Violation
  | [] => []
  | schema :: rest =>
    match items with
    | [] => []
    | item :: others =>
      violations (path ++ [toString index]) item schema ++
        prefixViolations path (index + 1) others rest

end

def accepts (schema : Schema) (value : Json) : Bool := (violations [] value schema).isEmpty

end FigureScript.Schema
