import FigureScript.Files.Store
import FigureScript.Runner.PrintOptions
import FigureScript.Text.ShellWord

/-!
# Running programs
-/

namespace FigureScript

/-- What a finished program leaves behind. -/
structure Outcome where
  code : Nat := 0
  stdout : List UInt8 := []
  stderr : List UInt8 := []
  deriving DecidableEq, Repr

namespace Program

/-- The complaint about a file that cannot be printed, under the name the program was started by. -/
def complaint (name path : String) (error : OsError) : String :=
  let reason := match error with
    | .notFound => "No such file or directory"
    | .isDirectory => "Is a directory"
    | .notDirectory => "Not a directory"
    | .nameTooLong => "File name too long"
    | _ => "Permission denied"
  name ++ ": " ++ ShellWord.text path ++ ": " ++ reason ++ "\n"

/-- Print files one after the other. One that cannot be read makes the program fail in the end. -/
def printAll (name : String) (files : FileStore) (directory : Location) : List String → Outcome
  | [] => {}
  | path :: rest =>
    let others := printAll name files directory rest
    match files.read directory path with
    | .ok content => { others with stdout := content ++ others.stdout }
    | .error error =>
      { others with code := 1, stderr := Utf8.encode (complaint name path error) ++ others.stderr }

/-- Run a program in a directory. None of these programs changes a file. -/
def run (program : Program) (name : String) (files : FileStore) (directory : Location)
    (arguments : List String) : Outcome :=
  match program with
  | printFiles =>
    match PrintOptions.files arguments with
    | .ok paths => printAll name files directory paths
    | .error fault => { code := 1, stderr := fault.message name }
  | printArguments => { stdout := Utf8.encode (String.intercalate " " arguments ++ "\n") }
  | succeed => {}
  | fail => { code := 1 }

end Program

end FigureScript
