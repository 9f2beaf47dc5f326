import FigureScript.Script.Syntax

/-!
# Script text

A script under construction is the list of its lines. Rendering ends every line with a line break.
-/

namespace FigureScript

structure Script where
  lines : List String := []
  deriving DecidableEq, Repr

namespace Script

def empty : Script := {}

def isEmpty (script : Script) : Bool := script.lines.isEmpty

def line (script : Script) (text : String) : Script := ⟨script.lines ++ [text]⟩

def indented (script : Script) (text : String) : Script := script.line ("    " ++ text)

def append (script : Script) (statements : List Statement) : Script :=
  ⟨script.lines ++ statements.map Statement.text⟩

def ofStatements (statements : List Statement) : Script := empty.append statements

/-- The text of the script. Lines are joined by line breaks, and a text that is not empty gets a last
one. -/
def render (script : Script) : String :=
  let joined := String.intercalate "\n" script.lines
  if joined.isEmpty then joined else joined ++ "\n"

@[simp] theorem lines_line (script : Script) (text : String) :
    (script.line text).lines = script.lines ++ [text] := rfl

@[simp] theorem lines_indented (script : Script) (text : String) :
    (script.indented text).lines = script.lines ++ ["    " ++ text] := rfl

@[simp] theorem lines_append (script : Script) (statements : List Statement) :
    (script.append statements).lines = script.lines ++ statements.map Statement.text := rfl

@[simp] theorem lines_ofStatements (statements : List Statement) :
    (ofStatements statements).lines = statements.map Statement.text := rfl

end Script

end FigureScript
