import FigureScript.Json.Skip

/-!
# How scripts are run

The interpreter, the script file and the directory to run in. A configuration file is a JSON object
with any of these, or an array of them in this order. The file is read as a stream, so wrong data is
reported with its position.
-/

namespace FigureScript

structure RunConfig where
  interpreter : String := "/usr/bin/python"
  /-- The name of the script file, before it is made a valid file name. -/
  scriptName : String := "/tmp/script.py"
  /-- The directory to run in; the working directory if unset. -/
  directory : Option String := none
  deriving DecidableEq, Repr

namespace RunConfig

open Json (Reader Fault Description)
open Json.Reader

def withInterpreter (config : RunConfig) (interpreter : Option String) : RunConfig :=
  { config with interpreter := interpreter.getD config.interpreter }

def withScriptName (config : RunConfig) (name : Option String) : RunConfig :=
  { config with scriptName := name.getD config.scriptName }

def refuse {α : Type} (found : Description) (wanted : String) : Reader α :=
  failHere (.data (.wrongType found wanted))

/-- Refuse the value at the cursor. A word, number or string is read first, so that it can be
described and a fault in it is found; of an array or object only the opening is looked at. -/
def refuseValue {α : Type} (wanted : String) : Reader α := do
  match ← peek with
  | some 110 => advance; word ['u', 'l', 'l']; refuse .null wanted
  | some 116 => advance; word ['r', 'u', 'e']; refuse (.boolean true) wanted
  | some 102 => advance; word ['a', 'l', 's', 'e']; refuse (.boolean false) wanted
  | some 45 =>
    advance
    let value ← number true
    refuse (Json.describe (.number value)) wanted
  | some 34 =>
    advance
    let value ← string
    refuse (.string value) wanted
  | some 91 => refuse .sequence wanted
  | some 123 => refuse .map wanted
  | some byte =>
    if Json.Cursor.isDigit byte then
      let value ← number false
      refuse (Json.describe (.number value)) wanted
    else failThere .noValue
  | none => failThere .endOfValue

def text (wanted : String) : Reader String := do
  match ← peekSolid with
  | some 34 => advance; string
  | _ => refuseValue wanted

def optionalPath : Reader (Option String) := do
  match ← peekSolid with
  | some 110 => advance; word ['u', 'l', 'l']; return none
  | _ => return some (← text "path string")

structure Fields where
  interpreter : Option String := none
  scriptName : Option String := none
  directory : Option (Option String) := none
  deriving DecidableEq, Repr

/-- Fields that are missing take their defaults. -/
def ofFields (fields : Fields) : RunConfig :=
  let config : RunConfig := {}
  { interpreter := fields.interpreter.getD config.interpreter
    scriptName := fields.scriptName.getD config.scriptName
    directory := fields.directory.getD config.directory }

/-- The fields of an array, as many as there are; nothing may follow the last one. -/
def items : Reader Fields := do
  if ← hasItem true then
    let interpreter ← text "a string"
    if ← hasItem false then
      let scriptName ← text "a string"
      if ← hasItem false then
        let directory ← optionalPath
        ending
        return ⟨some interpreter, some scriptName, some directory⟩
      else return ⟨some interpreter, some scriptName, none⟩
    else return ⟨some interpreter, none, none⟩
  else return {}
where
  /-- The bracket behind the last field. -/
  ending : Reader Unit := do
    match ← peekSolid with
    | some 93 => return ()
    | some 44 =>
      advance
      match ← peekSolid with
      | some 93 => failThere .trailingComma
      | _ => failThere .trailingCharacters
    | some _ => failThere .trailingCharacters
    | none => failThere .endOfList

/-- Refuse a field that was given before. -/
def once {α : Type} (name : String) (present : Option α) : Reader Unit := do
  if present.isSome then
    let _ ← peekSolid
    failHere (.data (.duplicateField name))

/-- The value behind a key, put to the fields read before. -/
def fieldValue (fields : Fields) (name : String) : Reader Fields := do
  match name with
  | "python" =>
    once name fields.interpreter
    colon
    return { fields with interpreter := some (← text "a string") }
  | "script_name" =>
    once name fields.scriptName
    colon
    return { fields with scriptName := some (← text "a string") }
  | "working_dir" =>
    once name fields.directory
    colon
    return { fields with directory := some (← optionalPath) }
  | _ =>
    colon
    skip
    return fields

/-- The members of an object. Each uses up a byte at least, which bounds the steps. -/
def members : (steps : Nat) → (first : Bool) → Fields → Reader Fields
  | 0, _, _ => failThere .endOfObject
  | steps + 1, first, fields => do
    if ← hasMember first then
      let name ← key
      members steps false (← fieldValue fields name)
    else return fields

def reader : Reader RunConfig := do
  let fields ← match ← peekSolid with
    | some 91 => advance; items
    | some 123 => advance; members ((← get).rest.length + 1) true {}
    | _ => refuseValue "struct RunnerConfig"
  advance
  finish
  return ofFields fields

def ofBytes (bytes : List UInt8) : Except Json.Failure RunConfig :=
  match reader.run (Json.Cursor.ofBytes .stream bytes) with
  | .ok (config, _) => .ok config
  | .error failure => .error failure

end RunConfig

end FigureScript
