import FigureScript.CommandLine.Run
import FigureScript.Runner.Standard
import Std.Time.Format

/-!
# The executable

The files that a command line names are read, the command is carried out on a machine that holds them,
and what it changed is written back. Programs are those of the standard machine.
-/

namespace FigureScript.Main

open CommandLine

/-- The paths that an invocation names, apart from those in its configuration. -/
def namedPaths (invocation : Invocation) : List String :=
  invocation.logFile.toList ++
    match invocation.command with
    | .compile figure out => figure :: out.toList
    | .run figure config _ scriptName =>
      figure :: (config.toList ++ [({} : RunConfig).scriptPath] ++
        (scriptName.map fun name => FileName.script (some name)).toList)
    | .schema => []
    | .demo _ => [({} : RunConfig).scriptPath]

def configuredPaths (invocation : Invocation) (machine : Machine) : List String :=
  match invocation.command with
  | .run _ (some path) _ _ =>
    match ((RunConfig.load path).run.run machine).1 with
    | .ok config => config.scriptPath :: config.directory.toList
    | .error _ => []
  | _ => []

def pathOf (location : Location) : String :=
  String.join (location.map fun name => "/" ++ name)

/-- True where the machine has a program or a device of its own. -/
def isFixed (files : FileStore) (location : Location) : Bool :=
  match files.find? location with
  | some (.program _) | some (.device _) => true
  | _ => false

/-- Put what stands at a path of the host, and the directories before it, into a machine. -/
def gather (machine : Machine) (path : String) : IO Machine := do
  let names := Path.components path
  let target := if Path.isAbsolute path then names else machine.directory ++ names
  let mut files := machine.files
  for count in List.range target.length do
    let location := target.take (count + 1)
    let place := (← IO.currentDir) / pathOf location
    if ← place.isDir then
      files := files.put location .directory
    else if !isFixed files location && (← place.pathExists) then
      files := files.put location (.file (← IO.FS.readBinFile place).toList false)
  return { machine with files }

def release (entry : Location × Node) : IO Unit := do
  match entry with
  | (location, .file content executable) =>
    let place := (← IO.currentDir) / pathOf location
    IO.FS.writeBinFile place ⟨content.toArray⟩
    if executable then
      let all : IO.AccessRight := { read := true, write := true, execution := true }
      let others : IO.AccessRight := { read := true, execution := true }
      IO.setAccessRights place { user := all, group := others, other := others }
  | _ => return ()

def now : IO String := do
  let time := Std.Time.DateTime.ofTimestampWithZone (← Std.Time.Timestamp.now) .UTC
  return time.toISO8601String

def run (arguments : List String) : IO UInt32 := do
  let here := Path.components (← IO.currentDir).toString
  let mut before : Machine :=
    { files := Machine.standardFiles.putWithParents here .directory
      directory := here
      time := ← now }
  if let some invocation := parse arguments then
    for path in namedPaths invocation do
      before ← gather before path
    for path in configuredPaths invocation before do
      before ← gather before path
  let (code, after) := CommandLine.run arguments before
  for entry in after.files.nodes do
    if before.files.find? entry.1 ≠ some entry.2 then release entry
  IO.print after.stdout
  IO.eprint after.stderr
  return UInt32.ofNat code.value

end FigureScript.Main

def main (arguments : List String) : IO UInt32 := FigureScript.Main.run arguments
