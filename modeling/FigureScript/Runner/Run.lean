import FigureScript.FileName
import FigureScript.Machine
import FigureScript.Runner.Config
import FigureScript.Runner.Error
import FigureScript.Runner.Start
import FigureScript.Text.Blank

/-!
# Running scripts

A script is written behind a header that names its interpreter, and the interpreter is started on it.
-/

namespace FigureScript

structure RunOutput where
  code : Nat
  stdout : String
  stderr : String
  deriving DecidableEq, Repr

def RunOutput.success (output : RunOutput) : Bool := output.code = 0

namespace RunConfig

def scriptPath (config : RunConfig) : String := FileName.script (some config.scriptName)

def header (config : RunConfig) : String :=
  "#!" ++ config.interpreter ++ "\n# -*- coding: utf-8 -*-\n" ++
    "from __future__ import unicode_literals\n"

def load (path : String) : Task RunError RunConfig := do
  let machine ← get
  let node ← Task.lift (.openConfig path) (machine.files.openToRead machine.directory path)
  let bytes ← Task.lift (.readConfig path) (node.content)
  Task.lift (.parseConfig path) (ofBytes bytes)

/-- Write a script file that can be executed, and return its path. -/
def writeScript (config : RunConfig) (script : String) : Task RunError String := do
  let path := config.scriptPath
  let machine ← get
  let location ← Task.lift (.createScript path) (machine.files.writable machine.directory path)
  let content := Utf8.encode (config.header ++ script)
  set { machine with files := (machine.files.overwrite location content).markExecutable location }
  Task.report (.scriptWritten path)
  return path

/-- The directory the interpreter runs in. -/
def runDirectory (config : RunConfig) (machine : Machine) : Except OsError Location :=
  match config.directory with
  | some directory =>
    if Path.hasNul directory then .error .argumentEnds
    else machine.files.enter machine.directory directory
  | none => .ok machine.directory

/-- The interpreter with a script to read, and the directory it runs in. -/
def prepare (config : RunConfig) (path : String) (machine : Machine) :
    Except OsError (Location × Start) := do
  if Path.hasNul config.interpreter then throw .argumentEnds
  let directory ← config.runDirectory machine
  let start ← machine.start directory config.interpreter [path]
  return (directory, start)

/-- Write a script, start the interpreter on it, and wait until it is done. -/
def runScript (config : RunConfig) (script : String) : Task RunError RunOutput := do
  let path ← config.writeScript script
  Task.report (.running config.interpreter path)
  let machine ← get
  let (directory, start) ← Task.lift (.spawn config.interpreter) (config.prepare path machine)
  modify fun machine =>
    { machine with
      launches := machine.launches ++ [⟨config.interpreter, [path], directory⟩] }
  let outcome := start.run machine.files directory
  let output : RunOutput :=
    { code := outcome.code
      stdout := Utf8.lossy outcome.stdout
      stderr := Utf8.lossy outcome.stderr }
  Task.report
    (if output.success then .finished else .exited output.code (Blank.trimmed output.stderr))
  return output

end RunConfig

end FigureScript
