import FigureScript.Json.Basic
import FigureScript.Number.Format

/-!
# JSON text

A value is written without blanks (`compact`) or with one line for each entry (`pretty`). Members
appear in the order in which the value holds them, and only those characters are escaped that must
be.
-/

namespace FigureScript.Json

def hexDigit (value : Nat) : Char := (Nat.toDigits 16 value).getLastD '0'

/-- A character of a JSON string. Control characters without a letter of their own are written by
their code. -/
def escaped (character : Char) : List Char :=
  if character = '"' then ['\\', '"']
  else if character = '\\' then ['\\', '\\']
  else if character = '\n' then ['\\', 'n']
  else if character = '\r' then ['\\', 'r']
  else if character = '\t' then ['\\', 't']
  else if character = '\x08' then ['\\', 'b']
  else if character = '\x0c' then ['\\', 'f']
  else if character.toNat < 32 then
    ['\\', 'u', '0', '0', hexDigit (character.toNat / 16), hexDigit (character.toNat % 16)]
  else [character]

def quoted (text : String) : String :=
  String.ofList ('"' :: text.toList.flatMap escaped ++ ['"'])

/-- The text of a number; JSON has none for a double that is not finite. -/
def numberText : JsonNumber → String
  | .natural value => toString value.toNat
  | .negative value _ => toString value.toInt
  | .float value => (Number.Format.json.finite? value).getD "null"

mutual

def compact : Json → String
  | .null => "null"
  | .boolean value => if value then "true" else "false"
  | .number value => numberText value
  | .string value => quoted value
  | .array items => "[" ++ String.intercalate "," (compactItems items) ++ "]"
  | .object members => "\x7b" ++ String.intercalate "," (compactMembers members) ++ "\x7d"

def compactItems : List Json → List String
  | [] => []
  | item :: rest => compact item :: compactItems rest

def compactMembers : List (String × Json) → List String
  | [] => []
  | (key, value) :: rest => (quoted key ++ ":" ++ compact value) :: compactMembers rest

end

/-- Items on lines of their own between two brackets; nothing stands between the brackets of an
empty list. -/
def block (opening closing : String) (depth : Nat) (items : List String) : String :=
  if items.isEmpty then opening ++ closing
  else
    let margin := "\n" ++ String.ofList (List.replicate (2 * (depth + 1)) ' ')
    let ending := "\n" ++ String.ofList (List.replicate (2 * depth) ' ')
    opening ++ margin ++ String.intercalate ("," ++ margin) items ++ ending ++ closing

mutual

/-- The text of a value over several lines, two blanks further in at each level. -/
def pretty (depth : Nat) : Json → String
  | .array items => block "[" "]" depth (prettyItems (depth + 1) items)
  | .object members => block "\x7b" "\x7d" depth (prettyMembers (depth + 1) members)
  | value => compact value

def prettyItems (depth : Nat) : List Json → List String
  | [] => []
  | item :: rest => pretty depth item :: prettyItems depth rest

def prettyMembers (depth : Nat) : List (String × Json) → List String
  | [] => []
  | (key, value) :: rest =>
    (quoted key ++ ": " ++ pretty depth value) :: prettyMembers depth rest

end

end FigureScript.Json
