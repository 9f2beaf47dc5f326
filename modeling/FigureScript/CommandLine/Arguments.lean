import FigureScript.Log

/-!
# Command lines

`compile --figure F [--out P]`, `run --figure F [--config C] [--python I] [--script-name N]`, `schema`
and `demo [--python I]`; `--log-level L` and `--log-file P` may stand before or after the name of the
command. The value of an option follows it as the next argument or behind an equals sign.
-/

namespace FigureScript.CommandLine

inductive Command where
  | compile (figure : String) (out : Option String)
  | run (figure : String) (config python scriptName : Option String)
  | schema
  | demo (python : Option String)
  deriving DecidableEq, Repr

structure Invocation where
  logLevel : LogLevel
  logFile : Option String
  command : Command
  deriving DecidableEq, Repr

structure Setting where
  option : String
  value : String
  deriving DecidableEq, Repr

def globalOptions : List String := ["log-level", "log-file"]

def commandOptions : String → Option (List String)
  | "compile" => some ["figure", "out"]
  | "run" => some ["figure", "config", "python", "script-name"]
  | "schema" => some []
  | "demo" => some ["python"]
  | _ => none

/-- The part in front of the first equals sign, and the part behind it if there is one. -/
def splitAtEquals : List Char → List Char × Option (List Char)
  | [] => ([], none)
  | character :: rest =>
    if character = '=' then ([], some rest)
    else
      let (front, back) := splitAtEquals rest
      (character :: front, back)

/-- An argument that looks like an option is none's value; a lone hyphen does not. -/
def looksLikeOption (argument : String) : Bool :=
  match argument.toList with
  | '-' :: _ :: _ => true
  | _ => false

def allows (option value : String) : Bool :=
  if option = "log-level" then (LogLevel.ofName? value).isSome else true

/-- Add an option to those read before; none may be given twice. -/
def set (settings : List Setting) (known : List String) (option value : String) :
    Option (List Setting) :=
  if option ∈ known ∧ allows option value ∧ settings.all (fun setting => setting.option ≠ option)
  then some (settings ++ [⟨option, value⟩])
  else none

/-- Read options up to the first argument that is none, which is returned with what follows it. -/
def options (known : List String) (settings : List Setting) :
    List String → Option (List Setting × List String)
  | [] => some (settings, [])
  | argument :: rest =>
    match argument.toList with
    | '-' :: '-' :: [] => if rest.isEmpty then some (settings, []) else none
    | '-' :: '-' :: text =>
      match splitAtEquals text with
      | (name, some value) => do
        options known (← set settings known (String.ofList name) (String.ofList value)) rest
      | (name, none) =>
        match rest with
        | value :: others =>
          if looksLikeOption value then none
          else do
            options known (← set settings known (String.ofList name) value) others
        | [] => none
    | _ => if looksLikeOption argument then none else some (settings, argument :: rest)

def valueOf (settings : List Setting) (option : String) : Option String :=
  (settings.find? fun setting => setting.option = option).map Setting.value

def command (name : String) (settings : List Setting) : Option Command :=
  let value := valueOf settings
  match name with
  | "compile" => (value "figure").map fun figure => .compile figure (value "out")
  | "run" =>
    (value "figure").map fun figure =>
      .run figure (value "config") (value "python") (value "script-name")
  | "schema" => some .schema
  | "demo" => some (.demo (value "python"))
  | _ => none

/-- Read the arguments of the program; `none` if they break a rule. An option given both before and
after the command counts as it stands after it. -/
def parse (arguments : List String) : Option Invocation := do
  let (before, rest) ← options globalOptions [] arguments
  match rest with
  | [] => none
  | name :: rest =>
    let known ← commandOptions name
    let (after, superfluous) ← options (globalOptions ++ known) [] rest
    if !superfluous.isEmpty then none
    let command ← command name after
    let value (option : String) := (valueOf after option).or (valueOf before option)
    return {
      logLevel := ((value "log-level").bind LogLevel.ofName?).getD .info
      logFile := value "log-file"
      command }

end FigureScript.CommandLine
