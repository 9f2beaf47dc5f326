import FigureScript.Files.OsError

/-!
# What can stand at a place

Directories and files, programs, and devices, which pass on what is written to them or lose it.
-/

namespace FigureScript

/-- Small programs that can stand in for an interpreter. -/
inductive Program where
  /-- Prints the files it is given. -/
  | printFiles
  /-- Prints its arguments. -/
  | printArguments
  | succeed
  | fail
  deriving DecidableEq, Repr

/-- Places that stand for something else than content. -/
inductive Device where
  /-- Empty to readers; whatever is written is lost. -/
  | nothing
  /-- Zeros without end to readers; whatever is written is lost. -/
  | zeros
  /-- Zeros without end to readers, and no room for what is written. -/
  | full
  /-- What is written there is output. -/
  | output
  /-- What is written there is a complaint. -/
  | complaints
  /-- A terminal that nobody sits at; it cannot be opened. -/
  | terminal
  deriving DecidableEq, Repr

inductive Node where
  | directory
  | file (content : List UInt8) (executable : Bool)
  | program (program : Program)
  | device (device : Device)
  deriving DecidableEq, Repr

/-- What programs look like to those who read them: no text, from the first bytes on. -/
def Program.image : List UInt8 := [0x7f, 0x45, 0x4c, 0x46, 0x02, 0x01, 0x01, 0x00, 0xff]

/-- What readers of a device find. Of zeros without end the first is enough: no text starts with one. -/
def Device.content : Device → List UInt8
  | .zeros | .full => [0]
  | .nothing | .output | .complaints | .terminal => []

def Node.content : Node → Except OsError (List UInt8)
  | .file bytes _ => .ok bytes
  | .device kind => .ok kind.content
  | .program _ => .ok Program.image
  | .directory => .error .isDirectory

end FigureScript
