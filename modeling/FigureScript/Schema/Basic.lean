import FigureScript.Json.Text

/-!
# Schemas

A schema describes which JSON values are admitted. It is a list of keywords, and a value has to
satisfy each of them. A reference to a named definition holds that definition, so that a schema can be
followed without looking names up.
-/

namespace FigureScript

/-- The types that JSON values are told apart by. A whole number is also a number. -/
inductive JsonType where
  | array
  | boolean
  | integer
  | null
  | number
  | object
  | string
  deriving DecidableEq, Repr

namespace JsonType

def all : List JsonType := [array, boolean, integer, null, number, object, string]

def name : JsonType → String
  | array => "array"
  | boolean => "boolean"
  | integer => "integer"
  | null => "null"
  | number => "number"
  | object => "object"
  | string => "string"

/-- Whole numbers are integers however they are written. -/
def isInteger : JsonNumber → Bool
  | .natural _ | .negative _ _ => true
  | .float value => Binary64.isWhole value

def admits (type : JsonType) (value : Json) : Bool :=
  match type, value with
  | array, .array _ | boolean, .boolean _ | null, .null | number, .number _ | object, .object _
  | string, .string _ => true
  | integer, .number held => isInteger held
  | _, _ => false

end JsonType

inductive Keyword where
  | title (text : String)
  | description (text : String)
  | type (admitted : List JsonType)
  /-- One certain text. -/
  | const (text : String)
  /-- One of several texts. -/
  | enumeration (texts : List String)
  /-- The schemas of members; other members are admitted too. -/
  | properties (members : List (String × List Keyword))
  /-- A definition by its name. -/
  | reference (name : String) (definition : List Keyword)
  | anyOf (alternatives : List (List Keyword))
  /-- Exactly one of the alternatives. -/
  | oneOf (alternatives : List (List Keyword))
  /-- A remark that is not checked. -/
  | format (name : String)
  | default (value : Json)
  | minimum (least : Nat)
  | maxItems (count : Nat)
  | minItems (count : Nat)
  /-- The schema of every item. -/
  | items (item : List Keyword)
  /-- The schemas of the first items, one by one. -/
  | prefixItems (firsts : List (List Keyword))
  /-- No members but the given ones are admitted. -/
  | closed (members : List String)
  | required (members : List String)

abbrev Schema := List Keyword

namespace Keyword

/-- One type is written as a text, several as a list. -/
def typeJson : List JsonType → Json
  | [only] => .string only.name
  | several => .array (several.map fun type => .string type.name)

def texts (values : List String) : Json := .array (values.map Json.string)

def definitionPath (name : String) : String := "#/$defs/" ++ name

mutual

/-- The member that stands for a keyword. -/
def toMember : Keyword → String × Json
  | .title text => ("title", .string text)
  | .description text => ("description", .string text)
  | .type admitted => ("type", typeJson admitted)
  | .const text => ("const", .string text)
  | .enumeration values => ("enum", texts values)
  | .properties members => ("properties", .object (membersJson members))
  | .reference name _ => ("$ref", .string (definitionPath name))
  | .anyOf alternatives => ("anyOf", .array (schemasJson alternatives))
  | .oneOf alternatives => ("oneOf", .array (schemasJson alternatives))
  | .format name => ("format", .string name)
  | .default value => ("default", value)
  | .minimum least => ("minimum", .ofNat least)
  | .maxItems count => ("maxItems", .ofNat count)
  | .minItems count => ("minItems", .ofNat count)
  | .items item => ("items", .object (toMembers item))
  | .prefixItems firsts => ("prefixItems", .array (schemasJson firsts))
  | .closed _ => ("additionalProperties", .boolean false)
  | .required members => ("required", texts members)

/-- The members of a schema, in the order of its keywords. -/
def toMembers : List Keyword → List (String × Json)
  | [] => []
  | keyword :: rest => toMember keyword :: toMembers rest

def schemasJson : List (List Keyword) → List Json
  | [] => []
  | schema :: rest => .object (toMembers schema) :: schemasJson rest

def membersJson : List (String × List Keyword) → List (String × Json)
  | [] => []
  | (name, schema) :: rest => (name, .object (toMembers schema)) :: membersJson rest

end

end Keyword

end FigureScript
