import FigureScript.Schema.Basic

/-!
# Where a value misses its schema
-/

namespace FigureScript.Schema

inductive Cause where
  | wrongType (admitted : List JsonType)
  | wrongText (expected : String)
  | unknownText (known : List String)
  | tooSmall (least : Nat)
  | tooFewItems (least : Nat)
  | tooManyItems (greatest : Nat)
  | noAlternative (keyword : String)
  | severalAlternatives
  | superfluousMembers (names : List String)
  | missingMember (name : String)

/-- A value inside a document, by the names and indices that lead to it. -/
structure Violation where
  path : List String
  value : Json
  cause : Cause

/-- Texts between double quotes, with commas between them. -/
def quotedNames (names : List String) : String :=
  String.intercalate ", " (names.map Json.quoted)

/-- Types are named in the order of their names. -/
def typeNames (types : List JsonType) : String :=
  quotedNames ((JsonType.all.filter fun type => type ∈ types).map JsonType.name)

def Cause.text (value : Json) : Cause → String
  | wrongType admitted =>
    value.compact ++ " is not of type" ++ (if admitted.length = 1 then " " else "s ") ++
      typeNames admitted
  | wrongText expected => Json.quoted expected ++ " was expected"
  | unknownText known => value.compact ++ " is not one of " ++ quotedNames known
  | tooSmall least => value.compact ++ " is less than the minimum of " ++ toString least
  | tooFewItems least => value.compact ++ " has less than " ++ items least
  | tooManyItems greatest => value.compact ++ " has more than " ++ items greatest
  | noAlternative keyword =>
    value.compact ++ " is not valid under any of the schemas listed in the '" ++ keyword ++
      "' keyword"
  | severalAlternatives =>
    value.compact ++ " is valid under more than one of the schemas listed in the 'oneOf' keyword"
  | superfluousMembers names =>
    "Additional properties are not allowed (" ++
      String.intercalate ", " (names.map fun name => "'" ++ name ++ "'") ++
      (if names.length = 1 then " was" else " were") ++ " unexpected)"
  | missingMember name => Json.quoted name ++ " is a required property"
where
  items (count : Nat) : String := toString count ++ (if count = 1 then " item" else " items")

/-- The path of a value: every step behind a slash. -/
def Violation.pointer (violation : Violation) : String :=
  String.join (violation.path.map fun step => "/" ++ step)

def Violation.line (violation : Violation) : String :=
  "  - " ++ violation.pointer ++ ": " ++ violation.cause.text violation.value

/-- All violations of a figure description in one message. -/
def report (violations : List Violation) : String :=
  "Figure JSON failed schema validation (" ++ toString violations.length ++ " errors):\n" ++
    String.intercalate "\n" (violations.map Violation.line)

end FigureScript.Schema
