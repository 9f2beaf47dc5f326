import FigureScript.Files.Store
import FigureScript.Log
import FigureScript.Text.Visible

/-!
# The machine

Files, output and started programs, as far as the program can see or change them. Tasks change the
machine step by step; one that fails leaves the changes made before.
-/

namespace FigureScript

/-- A program that was started. -/
structure Launch where
  interpreter : String
  arguments : List String
  /-- The directory the program runs in. -/
  directory : Location
  deriving DecidableEq, Repr

inductive LogTarget where
  /-- Events are only collected. -/
  | collected
  | stderr (level : LogLevel)
  /-- Lines go to an open file, behind the bytes written to it before. -/
  | file (level : LogLevel) (location : Location) (written : Nat)
  deriving DecidableEq, Repr

structure Machine where
  files : FileStore
  /-- The working directory. -/
  directory : Location
  log : LogTarget := .collected
  /-- The time that log lines bear. -/
  time : String := "1970-01-01T00:00:00Z"
  /-- All events reported, shown or not. -/
  events : List Event := []
  launches : List Launch := []
  stdout : String := ""
  stderr : String := ""
  deriving DecidableEq, Repr

abbrev Task (ε α : Type) := ExceptT ε (StateM Machine) α

namespace Machine

def setIn (text : String) : String :=
  String.ofList (text.toList.flatMap fun character =>
    if character = '\n' then '\n' :: List.replicate 4 ' ' else [character])

def padded (width : Nat) (text : String) : String :=
  text ++ String.ofList (List.replicate (width - text.length) ' ')

/-- The log line of an event. Nothing in it steers a terminal. -/
def logLine (time : String) (event : Event) : String :=
  Visible.text <|
    "[" ++ time ++ " " ++ padded 5 event.level.label ++ " " ++ event.source ++ "] " ++
      setIn event.text ++ "\n"

/-- True for the place of the log file, which stays open for writing. -/
def isWriting (machine : Machine) (location : Location) : Bool :=
  match machine.log with
  | .file _ place _ => place = location
  | _ => false

def send (machine : Machine) (content : List UInt8) : Device → Except OsError Machine
  | .output => .ok { machine with stdout := machine.stdout ++ Utf8.lossy content }
  | .complaints => .ok { machine with stderr := machine.stderr ++ Utf8.lossy content }
  | .full => if content.isEmpty then .ok machine else .error .noSpace
  | .nothing | .zeros | .terminal => .ok machine

/-- Write a file: what was there is gone, and a missing file is created. -/
def write (machine : Machine) (path : String) (content : List UInt8) : Except OsError Machine := do
  let location ← machine.files.writable machine.directory path
  match machine.files.find? location with
  | some (.device device) => machine.send content device
  | _ => return { machine with files := machine.files.overwrite location content }

/-- Add a line to the open log file. One that its device refuses is lost. -/
def logTo (machine : Machine) (level : LogLevel) (location : Location) (written : Nat)
    (line : String) : Machine :=
  let bytes := Utf8.encode line
  match machine.files.find? location with
  | some (.device device) => (machine.send bytes device).toOption.getD machine
  | _ =>
    { machine with
      files := machine.files.writeAt location written bytes
      log := .file level location (written + bytes.length) }

def report (machine : Machine) (event : Event) : Machine :=
  let machine := { machine with events := machine.events ++ [event] }
  let line := logLine machine.time event
  match machine.log with
  | .collected => machine
  | .stderr level =>
    if level.shows event.level then { machine with stderr := machine.stderr ++ line } else machine
  | .file level location written =>
    if level.shows event.level then machine.logTo level location written line else machine

end Machine

namespace Task

variable {ε α : Type}

def report (event : Event) : Task ε Unit := modify fun machine => machine.report event

/-- Take the result of a pure computation, with the reason for its failure in context. -/
def lift {δ : Type} (context : δ → ε) (result : Except δ α) : Task ε α :=
  match result with
  | .ok value => pure value
  | .error error => throw (context error)

/-- Report what happened on the way to a result, then take the result. -/
def logged {δ : Type} (context : δ → ε) (outcome : Logged (Except δ α)) : Task ε α := do
  outcome.events.forM report
  lift context outcome.result

def read (path : String) : Task ε (Except OsError (List UInt8)) := do
  let machine ← get
  return machine.files.read machine.directory path

def write (path : String) (content : List UInt8) : Task ε (Except OsError Unit) := do
  let machine ← get
  match machine.write path content with
  | .ok machine =>
    set machine
    return .ok ()
  | .error error => return .error error

def print (text : String) : Task ε Unit :=
  modify fun machine => { machine with stdout := machine.stdout ++ text }

def complain (text : String) : Task ε Unit :=
  modify fun machine => { machine with stderr := machine.stderr ++ text }

end Task

end FigureScript
