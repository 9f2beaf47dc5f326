import FigureScript.Layout
import FigureScript.Text.Shown

/-!
# Log events

What the program reports while it works, apart from its results. An event has a level, the part of
the program it comes from, and a text.
-/

namespace FigureScript

inductive LogLevel where
  | error
  | warn
  | info
  | debug
  | trace
  deriving DecidableEq, Repr

namespace LogLevel

def all : List LogLevel := [error, warn, info, debug, trace]

/-- The name that an option gives. -/
def name : LogLevel → String
  | error => "error"
  | warn => "warn"
  | info => "info"
  | debug => "debug"
  | trace => "trace"

/-- The name in a log line. -/
def label : LogLevel → String
  | error => "ERROR"
  | warn => "WARN"
  | info => "INFO"
  | debug => "DEBUG"
  | trace => "TRACE"

def ofName? (text : String) : Option LogLevel := all.find? fun level => level.name = text

/-- How much is shown at a level; each level shows all that the ones before it show. -/
def detail : LogLevel → Nat
  | error => 1
  | warn => 2
  | info => 3
  | debug => 4
  | trace => 5

/-- True when events of level `event` are shown at this level. -/
def shows (level event : LogLevel) : Bool := event.detail ≤ level.detail

end LogLevel

/-- Something worth reporting. -/
inductive Event where
  | unsafeText (text : String)
  | compiling (primary twin : Nat) (layout : Layout)
  | colorMapIgnored
  | compiled (lines : Nat)
  | scriptWritten (path : String)
  | running (interpreter path : String)
  | finished
  | exited (code : Nat) (complaint : String)
  /-- The compiled script was written where the user asked for it. -/
  | outputWritten (path : String)
  | figureSaved (path : String)
  | failed (message : String)
  deriving DecidableEq, Repr

namespace Event

def level : Event → LogLevel
  | unsafeText _ | exited .. => .warn
  | compiling .. | colorMapIgnored | compiled _ => .debug
  | scriptWritten _ | running .. | finished | outputWritten _ | figureSaved _ => .info
  | failed _ => .error

def source : Event → String
  | unsafeText _ | compiling .. | compiled _ => "plotscript::script::compiler"
  | colorMapIgnored => "plotscript::script::series::matrix"
  | scriptWritten _ | running .. | finished | exited .. => "plotscript::runner"
  | outputWritten _ | figureSaved _ | failed _ => "plotscript"

def truthText (value : Bool) : String := if value then "true" else "false"

def layoutText : Layout → String
  | .single => "Single"
  | .twin => "Twin"
  | .grid grid =>
    "Grid(SubplotSpec \x7b rows: " ++ toString grid.rows ++ ", columns: " ++
      toString grid.columns ++ ", share_x: " ++ truthText grid.shareX ++ ", share_y: " ++
      truthText grid.shareY ++ " \x7d)"

def text : Event → String
  | unsafeText value =>
    "Text " ++ Shown.text value ++ " contains a quote or line break and will break the script"
  | compiling primary twin layout =>
    "Compiling figure: " ++ toString primary ++ " series, " ++ toString twin ++
      " twin series, layout " ++ layoutText layout
  | colorMapIgnored => "Hinton diagrams ignore the color map"
  | compiled lines => "Script has " ++ toString lines ++ " lines"
  | scriptWritten path | outputWritten path => "Wrote script to " ++ path
  | running interpreter path => "Running " ++ interpreter ++ " " ++ path
  | finished => "Plotting process finished: exit status: 0"
  | exited code complaint =>
    "Plotting process exited with exit status: " ++ toString code ++ ": " ++ complaint
  | figureSaved path => "Saved " ++ path
  | failed message => message

end Event

structure Logged (α : Type) where
  events : List Event
  result : α
  deriving Repr

end FigureScript
