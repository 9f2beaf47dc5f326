import FigureScript.Machine
import FigureScript.Runner.Program
import FigureScript.Runner.Shebang

/-!
# Starting programs

A program is given by its path, or by its name alone, which is looked for in the directories for
programs. An executable script starts the program that its first line names, and hands on its own path.
-/

namespace FigureScript

structure Start where
  program : Program
  /-- The name the program is started by. -/
  name : String
  arguments : List String
  deriving DecidableEq, Repr

def Start.run (start : Start) (files : FileStore) (directory : Location) : Outcome :=
  start.program.run start.name files directory start.arguments

namespace Machine

/-- Where a program given by its name alone is looked for. -/
def searchPath : List String := ["/usr/local/bin", "/usr/bin", "/bin"]

/-- One script may lead to another, but among this many places there has to be a program. -/
def startLimit : Nat := 6

/-- What a path leads to, if it can be executed. Nobody may be writing to it. -/
def openExecutable (machine : Machine) (directory : Location) (path : String) :
    Except OsError Node := do
  match ← machine.files.openNode directory path with
  | (_, .program program) => return .program program
  | (location, .file content true) =>
    if machine.isWriting location then throw .textBusy
    return .file content true
  | _ => throw .permissionDenied

/-- Start what was found at a path. `places` bounds how many are looked at, this one included. -/
def startNode (machine : Machine) (directory : Location) :
    (places : Nat) → Node → (name path : String) → List String → Except OsError Start
  | 0, _, _, _, _ => .error .tooManyLinks
  | places + 1, node, name, path, arguments =>
    match node with
    | .program program => .ok ⟨program, name, arguments⟩
    | .file content _ => do
      let some shebang := Shebang.ofContent? content | throw .badFormat
      let interpreter ← machine.openExecutable directory shebang.interpreter
      machine.startNode directory places interpreter shebang.interpreter shebang.interpreter
        (shebang.argument.toList ++ path :: arguments)
    | _ => .error .permissionDenied

def startAt (machine : Machine) (directory : Location) (name path : String)
    (arguments : List String) : Except OsError Start := do
  let node ← machine.openExecutable directory path
  machine.startNode directory startLimit node name path arguments

/-- Start the first program of a name that can be started. `otherwise` is the reason for failing if
there is none; a program that is there and may not be started is the better reason. -/
def search (machine : Machine) (directory : Location) (name : String) (arguments : List String)
    (otherwise : OsError) : List String → Except OsError Start
  | [] => .error otherwise
  | place :: rest =>
    match machine.startAt directory name (place ++ "/" ++ name) arguments with
    | .error .notFound | .error .notDirectory =>
      machine.search directory name arguments otherwise rest
    | .error .permissionDenied =>
      machine.search directory name arguments .permissionDenied rest
    | result => result

/-- Start a program: a path is followed, a bare name is looked for. -/
def start (machine : Machine) (directory : Location) (name : String) (arguments : List String) :
    Except OsError Start :=
  if Path.hasSlash name then machine.startAt directory name name arguments
  else if name.isEmpty then .error .notFound
  else machine.search directory name arguments .notFound searchPath

end Machine

end FigureScript
