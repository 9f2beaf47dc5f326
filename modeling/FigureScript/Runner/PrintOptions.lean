import FigureScript.Text.Utf8

/-!
# Options of the program that prints files

Arguments that begin with a hyphen are options, by letters behind one hyphen or by names behind two. A
name may be cut short as long as it stays clear which one is meant, and none takes a value. Options that
are known do not change which files are printed.
-/

namespace FigureScript.PrintOptions

def letters : String := "benstuvAET"

def names : List String :=
  ["number-nonblank", "number", "squeeze-blank", "show-nonprinting", "show-ends", "show-tabs",
    "show-all", "help", "version"]

inductive Fault where
  /-- A letter is a single byte. -/
  | unknownLetter (letter : UInt8)
  | unknownName (argument : String)
  | unwantedValue (name : String)
  | ambiguous (argument : String) (candidates : List String)
  deriving DecidableEq, Repr

/-- The complaint of a program that is started by a name. -/
def Fault.message (program : String) (fault : Fault) : List UInt8 :=
  Utf8.encode (program ++ ": ") ++ reason fault ++
    Utf8.encode ("\nTry '" ++ program ++ " --help' for more information.\n")
where
  reason : Fault → List UInt8
    | unknownLetter letter => Utf8.encode "invalid option -- '" ++ letter :: Utf8.encode "'"
    | unknownName argument => Utf8.encode ("unrecognized option '" ++ argument ++ "'")
    | unwantedValue name =>
      Utf8.encode ("option '--" ++ name ++ "' doesn't allow an argument")
    | ambiguous argument candidates =>
      Utf8.encode ("option '" ++ argument ++ "' is ambiguous; possibilities:" ++
        String.join (candidates.map fun name => " '--" ++ name ++ "'"))

/-- The options that a name, maybe cut short, can mean. -/
def candidates (name : List Char) : List String :=
  if String.ofList name ∈ names then [String.ofList name]
  else names.filter fun option => name.isPrefixOf option.toList

def checkName (argument : String) (text : List Char) : Except Fault Unit :=
  let name := text.takeWhile (· ≠ '=')
  match candidates name with
  | [] => .error (.unknownName argument)
  | [option] => if text.contains '=' then .error (.unwantedValue option) else .ok ()
  | options => .error (.ambiguous argument options)

def checkLetters (text : List Char) : Except Fault Unit :=
  match (Utf8.encode (String.ofList text)).find? (!(Utf8.encode letters).contains ·) with
  | some letter => .error (.unknownLetter letter)
  | none => .ok ()

/-- The files among the arguments. Two hyphens alone end the options. -/
def files : List String → Except Fault (List String)
  | [] => .ok []
  | argument :: rest =>
    match argument.toList with
    | ['-', '-'] => .ok rest
    | '-' :: '-' :: text => do
      checkName argument text
      files rest
    | '-' :: letter :: text => do
      checkLetters (letter :: text)
      files rest
    | _ => return argument :: (← files rest)

end FigureScript.PrintOptions
