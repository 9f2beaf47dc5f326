import FigureScript.Number.Format

/-!
# Literals of the script

How numbers, truth values, texts and lists are written in a script so that Python reads them back.
Texts stand between single quotes exactly as they are; `isUnsafe` tells the texts that would not
survive this.
-/

namespace FigureScript.Literal

/-- Whole numbers below this magnitude are written as integers; each of them is a double. -/
def wholeLimit : Nat := Nat.pow 2 53

/-- The Python literal of a double. A whole value below `wholeLimit` is an integer literal, any other
finite value has a point or an exponent and so stays a float. The other values are names that the
script imports. -/
def number (value : Float) : String :=
  match Binary64.parts value with
  | .notANumber => "nan"
  | .infinite negative => if negative then "-inf" else "inf"
  | .finite negative significand exponent =>
    match Binary64.whole? significand exponent with
    | some magnitude =>
      if magnitude < wholeLimit then (if negative then "-" else "") ++ toString magnitude
      else Number.Format.plain.text value
    | none => Number.Format.plain.text value

def truth (value : Bool) : String := if value then "True" else "False"

/-- A text between single quotes; nothing in it is escaped. -/
def text (value : String) : String := "'" ++ value ++ "'"

def separated (items : List String) : String := String.intercalate ", " items

def bracketed (items : List String) : String := "[" ++ separated items ++ "]"

/-- Numbers without brackets around them. -/
def numbers (values : List Float) : String := separated (values.map number)

def numberList (values : List Float) : String := bracketed (values.map number)

def textList (values : List String) : String := bracketed (values.map text)

def numberRows (rows : List (List Float)) : String := bracketed (rows.map numberList)

/-- True when a text holds a character that would end its literal too early. -/
def isUnsafe (value : String) : Bool :=
  value.toList.any fun character =>
    character == '\'' || character == '\n' || character == '\r'

end FigureScript.Literal
