import FigureScript.Figure.Schema
import FigureScript.Json.Reader

/-!
# Figure descriptions

A description is JSON text. It has to satisfy the schema before it is read as a figure.
-/

namespace FigureScript

inductive DescriptionError where
  | text (failure : Json.Failure)
  | schema (violations : List Schema.Violation)
  | data (fault : Json.DataFault)

def DescriptionError.message : DescriptionError → String
  | text failure => failure.message
  | schema violations => Schema.report violations
  | data fault => fault.message

namespace Figure

def checkSchema (value : Json) : Except DescriptionError Unit :=
  match Schema.violations [] value FigureSchema.figure with
  | [] => .ok ()
  | violations => .error (.schema violations)

/-- The figure that a value describes; the schema is not asked. -/
def read (value : Json) : Except DescriptionError Figure :=
  match ofJson value with
  | .ok figure => .ok figure
  | .error fault => .error (.data fault)

/-- The figure that a value describes, if the schema admits the value. -/
def ofDocument (value : Json) : Except DescriptionError Figure := do
  checkSchema value
  read value

def parse (text : String) : Except DescriptionError Figure :=
  match Json.parse text with
  | .ok value => ofDocument value
  | .error failure => .error (.text failure)

end Figure

end FigureScript
