import FigureScript.Json.Reader

/-!
# Passing over values

A value that nobody asks for is passed over without being built. Only what is needed to find its end is
checked: brackets may nest to any depth, strings need not be text, and numbers may be of any size.
-/

namespace FigureScript.Json.Reader

/-- The rest of a string whose content does not matter. -/
def skipString : (steps : Nat) → Reader Unit
  | 0 => failHere .endOfString
  | steps + 1 => do
    let byte ← takeInString
    if byte = 34 then return ()
    else if byte = 92 then
      let letter ← takeInString
      if letter = 117 then
        let _ ← codeUnit
      else if (shortEscape letter).isNone then failHere .invalidEscape
      skipString steps
    else if byte < 32 then failHere .controlCharacter
    else skipString steps

def skipSomeDigits : Reader Unit := do
  match ← take with
  | some byte =>
    if Cursor.isDigit byte then
      let _ ← digits
    else failHere .invalidNumber
  | none => failHere .invalidNumber

def skipExponent : Reader Unit := do
  match ← peek with
  | some 101 | some 69 =>
    advance
    match ← peek with
    | some 43 | some 45 => advance
    | _ => pure ()
    skipSomeDigits
  | _ => pure ()

/-- A number; a minus sign in front of it has been used up. -/
def skipNumber : Reader Unit := do
  match ← take with
  | some byte =>
    if byte = 48 then
      match ← peek with
      | some digit => if Cursor.isDigit digit then failThere .invalidNumber
      | none => pure ()
    else if Cursor.isDigit byte then
      let _ ← digits
    else failHere .invalidNumber
  | none => failHere .invalidNumber
  if (← peek) = some 46 then
    advance
    if (← digits).isEmpty then failThere .invalidNumber
  skipExponent

/-- What a value stands in. -/
inductive Enclosure where
  | list
  | object
  deriving DecidableEq, Repr

def Enclosure.unfinished : Enclosure → Fault
  | list => .endOfList
  | object => .endOfObject

def Enclosure.unseparated : Enclosure → Fault
  | list => .noListSeparator
  | object => .noObjectSeparator

def Enclosure.closing : Enclosure → UInt8
  | list => 93
  | object => 125

/-- Inside an object every value has a key. -/
def skipKey : Enclosure → Reader Unit
  | .list => return ()
  | .object => do
    match ← peekSolid with
    | some 34 =>
      advance
      skipString ((← get).rest.length + 1)
      colon
    | some _ => failThere .keyNotString
    | none => failThere .endOfObject

mutual

/-- Pass over a value, then over the rest of what encloses it. -/
def skipValue : (steps : Nat) → (enclosing : List Enclosure) → Reader Unit
  | 0, _ => failThere .endOfValue
  | steps + 1, enclosing => do
    match ← peekSolid with
    | none => failThere .endOfValue
    | some 110 => advance; word ['u', 'l', 'l']; skipRest steps true enclosing
    | some 116 => advance; word ['r', 'u', 'e']; skipRest steps true enclosing
    | some 102 => advance; word ['a', 'l', 's', 'e']; skipRest steps true enclosing
    | some 45 => advance; skipNumber; skipRest steps true enclosing
    | some 34 =>
      advance
      skipString ((← get).rest.length + 1)
      skipRest steps true enclosing
    | some 91 => advance; skipRest steps false (.list :: enclosing)
    | some 123 => advance; skipRest steps false (.object :: enclosing)
    | some byte =>
      if Cursor.isDigit byte then
        skipNumber
        skipRest steps true enclosing
      else failThere .noValue

/-- Go on behind a value, or behind the opening of an enclosure when there is none yet. -/
def skipRest : (steps : Nat) → (behindValue : Bool) → (enclosing : List Enclosure) → Reader Unit
  | _, _, [] => return ()
  | 0, _, enclosure :: _ => failThere enclosure.unfinished
  | steps + 1, behindValue, enclosure :: outer => do
    match ← peekSolid with
    | none => failThere enclosure.unfinished
    | some byte =>
      if byte = enclosure.closing then
        advance
        skipRest steps true outer
      else if byte = 44 ∧ behindValue then
        advance
        skipKey enclosure
        skipValue steps (enclosure :: outer)
      else if behindValue then failThere enclosure.unseparated
      else
        skipKey enclosure
        skipValue steps (enclosure :: outer)

end

def skip : Reader Unit := do
  skipValue (2 * (← get).rest.length + 2) []

end FigureScript.Json.Reader
