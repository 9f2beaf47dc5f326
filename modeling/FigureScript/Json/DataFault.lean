import FigureScript.Json.Text
import FigureScript.Text.Shown

/-!
# Why a JSON value is not the wanted data
-/

namespace FigureScript.Json

/-- What a message says about a value: its kind, and the value itself where it is short. -/
inductive Description where
  | null
  | boolean (value : Bool)
  | integer (value : Int)
  | float (value : Float)
  | string (value : String)
  | sequence
  | map
  /-- The name of a variant that stands without its content. -/
  | bareVariant

def Description.text : Description → String
  | null => "null"
  | boolean value => "boolean `" ++ (if value then "true" else "false") ++ "`"
  | integer value => "integer `" ++ toString value ++ "`"
  | float value => "floating point `" ++ numberText (.float value) ++ "`"
  | string value => "string " ++ Shown.text value
  | sequence => "sequence"
  | map => "map"
  | bareVariant => "unit variant"

def describe : Json → Description
  | null => .null
  | boolean value => .boolean value
  | number (.natural value) => .integer value.toNat
  | number (.negative value _) => .integer value.toInt
  | number (.float value) => .float value
  | string value => .string value
  | array _ => .sequence
  | object _ => .map

inductive DataFault where
  | wrongType (found : Description) (wanted : String)
  | wrongValue (found : Description) (wanted : String)
  | wrongLength (length : Nat) (wanted : String)
  | missingField (name : String)
  | duplicateField (name : String)
  | unknownVariant (name : String) (known : List String)
  /-- None of the alternatives that are told apart by their content alone. -/
  | noAlternative (type : String)

def DataFault.message : DataFault → String
  | wrongType found wanted => "invalid type: " ++ found.text ++ ", expected " ++ wanted
  | wrongValue found wanted => "invalid value: " ++ found.text ++ ", expected " ++ wanted
  | wrongLength length wanted => "invalid length " ++ toString length ++ ", expected " ++ wanted
  | missingField name => "missing field `" ++ name ++ "`"
  | duplicateField name => "duplicate field `" ++ name ++ "`"
  | unknownVariant name known =>
    "unknown variant `" ++ name ++ "`, expected " ++ alternatives known
  | noAlternative type => "data did not match any variant of untagged enum " ++ type
where
  /-- Two names are joined by a word, more are listed. -/
  alternatives : List String → String
    | [first, second] => "`" ++ first ++ "` or `" ++ second ++ "`"
    | [only] => "`" ++ only ++ "`"
    | names => "one of " ++ String.intercalate ", " (names.map fun name => "`" ++ name ++ "`")

end FigureScript.Json
