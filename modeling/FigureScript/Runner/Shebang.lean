import FigureScript.Text.Utf8

/-!
# First lines of scripts

A script that can be executed names the program that reads it: `#!`, the path of the program and at most
one argument. Only the first bytes of the file are looked at, as if zeros followed its end.
-/

namespace FigureScript

structure Shebang where
  interpreter : String
  /-- All that follows the interpreter, blanks included. -/
  argument : Option String
  deriving DecidableEq, Repr

namespace Shebang

/-- The number of bytes that are looked at. -/
def window : Nat := 256

def isBlank (byte : UInt8) : Bool := byte = 32 || byte = 9

/-- Paths end at blanks and at zeros. -/
def endsPath (byte : UInt8) : Bool := isBlank byte || byte = 0

/-- The first line behind its mark. A line that does not end among the bytes looked at is cut, which is
only right if at least the path ends there. -/
def line? (content : List UInt8) : Option (List UInt8) :=
  match (content ++ List.replicate window 0).take window with
  | 35 :: 33 :: rest =>
    if (rest.takeWhile (· ≠ 0)).contains 10 then some (rest.takeWhile (· ≠ 10))
    else if (rest.dropWhile isBlank).any endsPath then some rest.dropLast
    else none
  | _ => none

def trimmed (bytes : List UInt8) : List UInt8 :=
  ((bytes.dropWhile isBlank).reverse.dropWhile isBlank).reverse

/-- What the first line of a file says, if it names a program. -/
def ofContent? (content : List UInt8) : Option Shebang := do
  let line := trimmed (← line? content)
  if line.isEmpty then none
  let path := line.takeWhile (!endsPath ·)
  let argument := match line.drop path.length with
    | [] | 0 :: _ => none
    | behind => some ((behind.dropWhile isBlank).takeWhile (· ≠ 0))
  return ⟨Utf8.lossy path, argument.map Utf8.lossy⟩

end Shebang

end FigureScript
