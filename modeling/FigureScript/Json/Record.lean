import FigureScript.Json.DataFault

/-!
# Data in JSON values

Decoders turn a JSON value into data or say what is wrong with it. A record is written as an object,
whose members are looked up by name and read in the order of their names, or as an array of its fields
in the order of their declaration. Fields that are missing take their defaults, members with other
names are ignored.
-/

namespace FigureScript.Json

abbrev Decoder (α : Type) := Json → Except DataFault α

namespace Decoder

def mismatch {α : Type} (wanted : String) (found : Json) : Except DataFault α :=
  .error (.wrongType (describe found) wanted)

def text : Decoder String
  | .string value => .ok value
  | other => mismatch "a string" other

def truth : Decoder Bool
  | .boolean value => .ok value
  | other => mismatch "a boolean" other

def ofNumber : JsonNumber → Float
  | .natural value => Binary64.ofNat value.toNat
  | .negative value _ => Binary64.ofInt value.toInt
  | .float value => value

def float : Decoder Float
  | .number value => .ok (ofNumber value)
  | other => mismatch "f64" other

/-- A size is held as a whole number; a float is none, whatever its value. -/
def size : Decoder UInt64
  | .number (.natural value) => .ok value
  | .number (.negative value _) => .error (.wrongValue (.integer value.toInt) "usize")
  | other => mismatch "usize" other

def optional {α : Type} (decoder : Decoder α) : Decoder (Option α)
  | .null => .ok none
  | value => (decoder value).map some

def items {α : Type} (decoder : Decoder α) : List Json → Except DataFault (List α)
  | [] => .ok []
  | item :: rest => do
    let first ← decoder item
    let others ← items decoder rest
    return first :: others

def list {α : Type} (decoder : Decoder α) : Decoder (List α)
  | .array values => items decoder values
  | other => mismatch "a sequence" other

def tooLong {α : Type} (length : Nat) : Except DataFault α :=
  .error (.wrongLength length "fewer elements in array")

def pair {α : Type} (decoder : Decoder α) : Decoder (α × α)
  | .array (first :: second :: rest) => do
    let first ← decoder first
    let second ← decoder second
    if rest.isEmpty then return (first, second) else tooLong (rest.length + 2)
  | .array [only] => do
    let _ ← decoder only
    .error (.wrongLength 1 "a tuple of size 2")
  | .array [] => .error (.wrongLength 0 "a tuple of size 2")
  | other => mismatch "a tuple of size 2" other

end Decoder

/-- Where a value stands. Inside a value whose kind is told by a tag, messages about superfluous items
differ, and an empty object stands for the missing content of a variant. -/
inductive Place where
  | document
  | tagged
  deriving DecidableEq, Repr

structure Record (α : Type) where
  /-- What messages call the record. -/
  type : String
  /-- The names of the fields in the order of their declaration. -/
  fields : List String
  /-- Read the record from named values. -/
  read : List (String × Json) → Except DataFault α

namespace Record

def field {α : Type} (members : List (String × Json)) (name : String) (decoder : Decoder α)
    (default : α) : Except DataFault α :=
  match lookup name members with
  | some value => decoder value
  | none => .ok default

def surplus {α : Type} (place : Place) (length fields : Nat) : Except DataFault α :=
  match place with
  | .document => Decoder.tooLong length
  | .tagged =>
    .error (.wrongLength length (toString fields ++ " elements in sequence"))

/-- Read a record from its fields in order. The items are taken one by one, so that the first wrong
one is reported. -/
def readItems {α : Type} (record : Record α) (place : Place) (items : List Json) :
    Except DataFault α := do
  (List.range (min items.length record.fields.length)).forM fun count => do
    let _ ← record.read (record.fields.zip (items.take (count + 1)))
  if record.fields.length < items.length then surplus place items.length record.fields.length
  else record.read (record.fields.zip items)

def decode {α : Type} (record : Record α) (place : Place) : Decoder α
  | .object members => record.read members
  | .array items => record.readItems place items
  | other => Decoder.mismatch record.type other

end Record

/-- A variant is written as its name, or as an object whose only member has that name and holds the
content of the variant. -/
def variant {α : Type} (known : List String) (read : String → Option Json → Except DataFault α) :
    Decoder α
  | .string name => named name none
  | .object [(name, content)] => named name (some content)
  | .object _ => .error (.wrongValue .map "map with a single key")
  | other => Decoder.mismatch "string or map" other
where
  named (name : String) (content : Option Json) : Except DataFault α :=
    if name ∈ known then read name content else .error (.unknownVariant name known)

def noContent (place : Place) : Option Json → Except DataFault Unit
  | none | some .null => .ok ()
  | some (.object []) =>
    match place with
    | .tagged => .ok ()
    | .document => .error (.wrongType .map "unit")
  | some other => Decoder.mismatch "unit" other

end FigureScript.Json
