import FigureScript.Number.Binary64
import FigureScript.Number.Shortest

/-!
# Writing doubles

A `Format` fixes what the digits alone leave open: for which magnitudes the point is written in its
place, how an exponent is written, and which of two equally close decimals is meant. All digits come
from `shortest`, so the text of a finite double reads back as that double.
-/

namespace FigureScript.Number

structure Format where
  /-- The least decimal exponent of the leading digit that is written without an exponent part. -/
  leastPositional : Int
  /-- The greatest such exponent. -/
  greatestPositional : Int
  /-- Whether a positive exponent carries a plus sign. -/
  exponentPlus : Bool
  tie : Tie
  deriving DecidableEq, Repr

/-- Numbers from `0.0001` up to `1e16` are written without an exponent, half-way cases away from
zero. -/
def Format.plain : Format := ⟨-4, 15, false, .away⟩

/-- JSON numbers from `0.00001` up to `1e+16` are written without an exponent, half-way cases to the
even digit. -/
def Format.json : Format := ⟨-5, 15, true, .toEven⟩

def zeros (count : Nat) : String := String.ofList (List.replicate count '0')

/-- Digits with the point in its place, and at least one digit on either side of it. -/
def positional (digits : String) (exponent : Int) : String :=
  if 0 ≤ exponent then digits ++ zeros exponent.toNat ++ ".0"
  else
    let decimals := (-exponent).toNat
    if decimals < digits.length then
      let front := digits.length - decimals
      String.ofList (digits.toList.take front) ++ "." ++ String.ofList (digits.toList.drop front)
    else "0." ++ zeros (decimals - digits.length) ++ digits

/-- One digit, the others behind a point, and the exponent of the first one. -/
def scientific (plus : Bool) (digits : String) (leading : Int) : String :=
  let mantissa :=
    match digits.toList with
    | first :: second :: rest => String.ofList (first :: '.' :: second :: rest)
    | short => String.ofList short
  let sign := if leading < 0 then "-" else if plus then "+" else ""
  mantissa ++ "e" ++ sign ++ toString leading.natAbs

def Format.magnitude (format : Format) (decimal : Decimal) : String :=
  let digits := toString decimal.digits
  let leading := decimal.exponent + digits.length - 1
  if format.leastPositional ≤ leading ∧ leading ≤ format.greatestPositional then
    positional digits decimal.exponent
  else scientific format.exponentPlus digits leading

/-- The text of a finite double; `none` for the others. -/
def Format.finite? (format : Format) (value : Float) : Option String :=
  match Binary64.parts value with
  | .finite negative significand exponent =>
    some ((if negative then "-" else "") ++
      format.magnitude (shortest format.tie significand exponent))
  | _ => none

def Format.text (format : Format) (value : Float) : String :=
  match format.finite? value with
  | some text => text
  | none =>
    match Binary64.parts value with
    | .infinite true => "-inf"
    | .infinite false => "inf"
    | _ => "NaN"

end FigureScript.Number
