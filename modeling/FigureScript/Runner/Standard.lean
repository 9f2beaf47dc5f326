import FigureScript.Machine

/-!
# A machine of its own

A machine with an empty working directory and a few programs, for running scripts without the one the
library runs on.
-/

namespace FigureScript.Machine

/-- The names of the programs, as they are found in the directories for programs. -/
def standardPrograms : List (String × Program) :=
  [("cat", .printFiles), ("echo", .printArguments), ("true", .succeed), ("false", .fail)]

def standardDirectories : List Location :=
  [["bin"], ["boot"], ["dev"], ["dev", "fd"], ["dev", "pts"], ["dev", "shm"], ["etc"], ["home"],
    ["lib"], ["media"], ["mnt"], ["opt"], ["proc"], ["proc", "self"], ["proc", "self", "fd"],
    ["root"], ["run"], ["sbin"], ["srv"], ["sys"], ["tmp"], ["usr"], ["usr", "bin"],
    ["usr", "lib"], ["usr", "local"], ["usr", "local", "bin"], ["usr", "sbin"], ["usr", "share"],
    ["var"], ["var", "tmp"]]

/-- The names of the devices; the streams of a program have names by their numbers too. -/
def standardDevices : List (Location × Device) :=
  [(["dev", "null"], .nothing), (["dev", "zero"], .zeros), (["dev", "full"], .full),
    (["dev", "tty"], .terminal), (["dev", "stdin"], .nothing), (["dev", "stdout"], .output),
    (["dev", "stderr"], .complaints)] ++
  [["dev", "fd"], ["proc", "self", "fd"]].flatMap fun directory =>
    [(directory ++ ["0"], .nothing), (directory ++ ["1"], .output),
      (directory ++ ["2"], .complaints)]

def standardFiles : FileStore where
  nodes :=
    standardDirectories.map (fun place => (place, .directory)) ++
    [["bin"], ["usr", "bin"]].flatMap (fun directory =>
      standardPrograms.map fun program => (directory ++ [program.1], .program program.2)) ++
    standardDevices.map (fun device => (device.1, .device device.2))

/-- An empty directory below the one for temporary files. -/
def standardDirectory : Location := ["tmp", "work"]

def standard : Machine where
  files := standardFiles.put standardDirectory .directory
  directory := standardDirectory

end FigureScript.Machine
