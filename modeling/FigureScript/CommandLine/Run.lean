import FigureScript.CommandLine.Arguments
import FigureScript.Figure.Compile
import FigureScript.Figure.Quick
import FigureScript.Runner.Run

/-!
# The program

What each command does to the machine, and the exit code it ends with.
-/

namespace FigureScript.CommandLine

inductive ExitCode where
  | success
  | failure
  /-- The command line breaks a rule. -/
  | usage
  deriving DecidableEq, Repr

def ExitCode.value : ExitCode → Nat
  | success => 0
  | failure => 1
  | usage => 2

def loadFigure (path : String) : Task RunError Figure := do
  let bytes ← Task.lift (.readFigure path) (← Task.read path)
  match Utf8.text? bytes with
  | some text => Task.lift (.describeFigure path) (Figure.parse text)
  | none => throw (.readFigure path .notText)

/-- Compile a figure, run its script and pass on what the interpreter printed. -/
def runFigure (figure : Figure) (config : RunConfig) : Task RunError ExitCode := do
  let script ← Task.logged .figure figure.compile
  let output ← config.runScript script
  Task.print output.stdout
  if output.success then
    Task.report (.figureSaved figure.outputPath)
    return .success
  else
    Task.complain output.stderr
    return .failure

def execute : Command → Task RunError ExitCode
  | .compile figure out => do
    let figure ← loadFigure figure
    let script ← Task.logged .figure figure.compile
    match out with
    | some path =>
      Task.lift (.writeScript path) (← Task.write path (Utf8.encode script))
      Task.report (.outputWritten path)
    | none => Task.print script
    return .success
  | .run figure config python scriptName => do
    let config ← match config with
      | some path => RunConfig.load path
      | none => pure {}
    let config := (config.withInterpreter python).withScriptName scriptName
    runFigure (← loadFigure figure) config
  | .schema => do
    Task.print (FigureSchema.text ++ "\n")
    return .success
  | .demo python => runFigure .demo (RunConfig.withInterpreter {} python)

/-- The machine with its log opened. A log file is created anew. -/
def openLog (machine : Machine) (invocation : Invocation) : Except OsError Machine :=
  match invocation.logFile with
  | none => .ok { machine with log := .stderr invocation.logLevel }
  | some path => do
    let location ← machine.files.writable machine.directory path
    return { machine with
      files := machine.files.overwrite location []
      log := .file invocation.logLevel location 0 }

/-- Carry out an invocation. A failure is reported to the log. -/
def perform (invocation : Invocation) (machine : Machine) : ExitCode × Machine :=
  match openLog machine invocation with
  | .error error =>
    let complaint := "Could not open log file '" ++ invocation.logFile.getD "" ++ "': " ++
      error.message ++ "\n"
    (.failure, { machine with stderr := machine.stderr ++ complaint })
  | .ok machine =>
    match (execute invocation.command).run.run machine with
    | (.ok code, machine) => (code, machine)
    | (.error error, machine) => (.failure, machine.report (.failed error.message))

/-- The program. A command line that breaks a rule changes nothing. -/
def run (arguments : List String) (machine : Machine) : ExitCode × Machine :=
  match parse arguments with
  | some invocation => perform invocation machine
  | none => (.usage, machine)

end FigureScript.CommandLine
