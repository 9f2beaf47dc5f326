import FigureScript.Json.Failure
import FigureScript.Text.Utf8

/-!
# Reading JSON

Readers take a cursor and give back a value with the cursor behind it, or the first failure. Nesting
is limited to 127 levels. Decimal numbers are read with double arithmetic, so the last digit of a
result can differ from the nearest double.
-/

namespace FigureScript.Json

abbrev Reader (α : Type) := StateT Cursor (Except Failure) α

namespace Reader

def failHere {α : Type} (fault : Fault) : Reader α := do
  throw ⟨fault, (← get).here⟩

def failThere {α : Type} (fault : Fault) : Reader α := do
  throw ⟨fault, (← get).there⟩

def peek : Reader (Option UInt8) := do
  let (byte, cursor) := (← get).peek
  set cursor
  return byte

def take : Reader (Option UInt8) := do
  match (← get).next with
  | none => return none
  | some (byte, cursor) =>
    set cursor
    return some byte

def advance : Reader Unit := modify Cursor.advance

/-- The next byte behind blanks. -/
def peekSolid : Reader (Option UInt8) := do
  modify Cursor.skipBlanks
  peek

/-- The rest of a word whose first letter has been used up. -/
def word : List Char → Reader Unit
  | [] => return ()
  | letter :: rest => do
    match ← take with
    | none => failHere .endOfValue
    | some byte => if byte.toNat = letter.toNat then word rest else failHere .unknownWord

/-! ## Numbers -/

def digitValue (byte : UInt8) : Nat := byte.toNat - 48

def digits : Reader (List Nat) := do
  let before := (← get).rest
  modify Cursor.skipDigits
  return (before.takeWhile Cursor.isDigit).map digitValue

/-- Significands are collected as long as they stay below this bound. -/
def significandLimit : Nat := Nat.pow 2 64

/-- Digits in front of the point. From the first one that no longer fits they are dropped, and their
number is returned. -/
def collectWhole (significand : Nat) : List Nat → Nat × Nat
  | [] => (significand, 0)
  | digit :: rest =>
    let longer := significand * 10 + digit
    if longer < significandLimit then collectWhole longer rest
    else (significand, rest.length + 1)

/-- Digits behind the point, as long as they fit, and how many did. -/
def collectFraction (significand taken : Nat) : List Nat → Nat × Nat
  | [] => (significand, taken)
  | digit :: rest =>
    let longer := significand * 10 + digit
    if longer < significandLimit then collectFraction longer (taken + 1) rest
    else (significand, taken)

def powerOfTen (exponent : Nat) : Float := Binary64.ofNat (Nat.pow 10 exponent)

/-- `significand * 10 ^ exponent` in double arithmetic: one product or quotient with a power of ten,
and one quotient more for exponents below -308. `none` if the result is too large. -/
def scaled (significand : Nat) (exponent : Int) : Option Float :=
  let value := Binary64.ofNat significand
  if significand = 0 then some value
  else if 308 < exponent then none
  else if 0 ≤ exponent then
    let product := value * powerOfTen exponent.toNat
    if Binary64.isFinite product then some product else none
  else if -308 ≤ exponent then
    some (value / powerOfTen (-exponent).toNat)
  else if -616 ≤ exponent then
    some (value / powerOfTen 308 / powerOfTen (-(exponent + 308)).toNat)
  else some (Binary64.ofNat 0)

def signed (negative : Bool) (value : Float) : Float := if negative then -value else value

def decimal (negative : Bool) (significand : Nat) (exponent : Int) : Reader JsonNumber := do
  match scaled significand exponent with
  | some value => return .float (signed negative value)
  | none => failHere .numberOutOfRange

/-- Written exponents are collected as long as they stay below this bound. -/
def exponentLimit : Nat := Nat.pow 2 31

/-- The digits of an exponent behind its first one. At a digit that no longer fits the number is out
of range, unless it is zero or so small that it becomes zero. -/
def exponentDigits (vanishes : Bool) : (steps value : Nat) → Reader (Option Nat)
  | 0, value => return some value
  | steps + 1, value => do
    match ← peek with
    | some byte =>
      if Cursor.isDigit byte then
        advance
        let longer := value * 10 + digitValue byte
        if longer < exponentLimit then exponentDigits vanishes steps longer
        else if vanishes then
          modify Cursor.skipDigits
          return none
        else failHere .numberOutOfRange
      else return some value
    | none => return some value

/-- The number whose exponent part begins at the next byte. -/
def exponentPart (negative : Bool) (significand : Nat) (exponent : Int) : Reader JsonNumber := do
  advance
  let mark ← peek
  let below := mark == some 45
  if below || mark == some 43 then advance
  match ← take with
  | none => failHere .endOfValue
  | some byte =>
    if Cursor.isDigit byte then
      let steps := (← get).rest.length
      match ← exponentDigits (significand = 0 || below) steps (digitValue byte) with
      | some written =>
        decimal negative significand (if below then exponent - written else exponent + written)
      | none => return .float (signed negative (Binary64.ofNat 0))
    else failHere .invalidNumber

/-- What follows the digits in front of the point. -/
def fractionPart (negative : Bool) (significand dropped : Nat) : Reader JsonNumber := do
  advance
  let fraction ← digits
  if fraction.isEmpty then
    match ← peek with
    | some _ => failThere .invalidNumber
    | none => failThere .endOfValue
  let (significand, taken) := collectFraction significand 0 fraction
  let exponent : Int := dropped - taken
  match ← peek with
  | some 101 | some 69 => exponentPart negative significand exponent
  | _ => decimal negative significand exponent

/-- A whole number without point and exponent, as long as 64 bits hold it. -/
def wholeNumber (negative : Bool) (magnitude : Nat) : JsonNumber :=
  if negative then
    let value := Int64.ofInt (-(magnitude : Int))
    if below : value < 0 then .negative value below
    else .float (-(Binary64.ofNat magnitude))
  else .natural (UInt64.ofNat magnitude)

/-- A number; a minus sign in front of it has been used up. -/
def number (negative : Bool) : Reader JsonNumber := do
  match ← take with
  | none => failHere .endOfValue
  | some byte =>
    if Cursor.isDigit byte then
      let further ← digitsBehind byte
      let (significand, dropped) := collectWhole (digitValue byte) further
      match ← peek with
      | some 46 => fractionPart negative significand dropped
      | some 101 | some 69 => exponentPart negative significand dropped
      | _ =>
        if dropped = 0 then return wholeNumber negative significand
        else decimal negative significand dropped
    else failHere .invalidNumber
where
  /-- Nothing but a point or an exponent may follow a leading zero. -/
  digitsBehind (first : UInt8) : Reader (List Nat) := do
    if first = 48 then
      match ← peek with
      | some byte => if Cursor.isDigit byte then failThere .invalidNumber else return []
      | none => return []
    else digits

/-! ## Strings -/

def hexValue (byte : UInt8) : Option Nat :=
  if 48 ≤ byte ∧ byte ≤ 57 then some (byte.toNat - 48)
  else if 97 ≤ byte ∧ byte ≤ 102 then some (byte.toNat - 87)
  else if 65 ≤ byte ∧ byte ≤ 70 then some (byte.toNat - 55)
  else none

def takeInString : Reader UInt8 := do
  match ← take with
  | some byte => return byte
  | none => failHere .endOfString

/-- The four digits of a code unit. All of them are used up before any is judged. -/
def codeUnit : Reader Nat := do
  let first ← takeInString
  let second ← takeInString
  let third ← takeInString
  let fourth ← takeInString
  match hexValue first, hexValue second, hexValue third, hexValue fourth with
  | some a, some b, some c, some d => return ((a * 16 + b) * 16 + c) * 16 + d
  | _, _, _, _ => failHere .invalidEscape

def isLeadingSurrogate (unit : Nat) : Bool := 0xd800 ≤ unit && unit < 0xdc00

def isTrailingSurrogate (unit : Nat) : Bool := 0xdc00 ≤ unit && unit < 0xe000

def pairMark (mark : UInt8) : Reader Unit := do
  if (← takeInString) = mark then return () else failHere .unfinishedSurrogate

/-- The character of a numeric escape; two surrogates make one character. -/
def codePoint : Reader Char := do
  let unit ← codeUnit
  if isTrailingSurrogate unit then failHere .loneSurrogate
  else if isLeadingSurrogate unit then
    pairMark 92
    pairMark 117
    let trailing ← codeUnit
    if isTrailingSurrogate trailing then
      return Char.ofNat ((unit - 0xd800) * 1024 + (trailing - 0xdc00) + 0x10000)
    else failHere .loneSurrogate
  else return Char.ofNat unit

/-- The character that a letter behind a backslash stands for. -/
def shortEscape (letter : UInt8) : Option UInt8 :=
  match letter with
  | 34 => some 34
  | 92 => some 92
  | 47 => some 47
  | 98 => some 8
  | 102 => some 12
  | 110 => some 10
  | 114 => some 13
  | 116 => some 9
  | _ => none

def escape : Reader (List UInt8) := do
  let letter ← takeInString
  if letter = 117 then
    return Utf8.encode (String.singleton (← codePoint))
  else
    match shortEscape letter with
    | some byte => return [byte]
    | none => failHere .invalidEscape

/-- The bytes up to the closing quote, put in front of `content` in reverse order. -/
def stringBytes : (steps : Nat) → (content : List UInt8) → Reader (List UInt8)
  | 0, _ => failHere .endOfString
  | steps + 1, content => do
    let byte ← takeInString
    if byte = 34 then return content.reverse
    else if byte = 92 then
      let bytes ← escape
      stringBytes steps (bytes.reverse ++ content)
    else if byte < 32 then failHere .controlCharacter
    else stringBytes steps (byte :: content)

/-- A string whose opening quote has been used up. Bytes that spell no text are reported where the
first of them stands. -/
def string : Reader String := do
  let bytes ← stringBytes ((← get).rest.length + 1) []
  match Utf8.decode bytes with
  | .ok characters => return String.ofList characters
  | .error before =>
    let position := (← get).here
    throw ⟨.invalidUnicode, { position with column := position.column - (bytes.length - before) }⟩

/-! ## Arrays and objects -/

/-- Whether another item follows; the cursor then stands before it. -/
def hasItem (first : Bool) : Reader Bool := do
  match ← peekSolid with
  | none => failThere .endOfList
  | some 93 => return false
  | some byte =>
    if first then return true
    else if byte = 44 then
      advance
      match ← peekSolid with
      | some 93 => failThere .trailingComma
      | some _ => return true
      | none => failThere .endOfValue
    else failThere .noListSeparator

/-- Whether another member follows; the cursor then stands before its key. -/
def hasMember (first : Bool) : Reader Bool := do
  match ← peekSolid with
  | none => failThere .endOfObject
  | some 125 => return false
  | some byte =>
    if first then
      if byte = 34 then return true else failThere .keyNotString
    else if byte = 44 then
      advance
      match ← peekSolid with
      | some 34 => return true
      | some 125 => failThere .trailingComma
      | some _ => failThere .keyNotString
      | none => failThere .endOfValue
    else failThere .noObjectSeparator

/-- A key; its opening quote has been looked at. -/
def key : Reader String := do
  advance
  string

def colon : Reader Unit := do
  match ← peekSolid with
  | some 58 => advance
  | some _ => failThere .noColon
  | none => failThere .endOfObject

/-- The levels of nesting that are read. -/
def depthLimit : Nat := 127

mutual

/-- A value. `depth` is the number of levels left, `steps` bounds the recursion. -/
def value : (steps depth : Nat) → Reader Json
  | 0, _ => failThere .endOfValue
  | steps + 1, depth => do
    match ← peekSolid with
    | none => failThere .endOfValue
    | some 110 => advance; word ['u', 'l', 'l']; return .null
    | some 116 => advance; word ['r', 'u', 'e']; return .boolean true
    | some 102 => advance; word ['a', 'l', 's', 'e']; return .boolean false
    | some 45 => advance; return .number (← number true)
    | some 34 => advance; return .string (← string)
    | some 91 =>
      match depth with
      | 0 => failThere .tooDeep
      | deeper + 1 =>
        advance
        let items ← items steps deeper true
        advance
        return .array items
    | some 123 =>
      match depth with
      | 0 => failThere .tooDeep
      | deeper + 1 =>
        advance
        let members ← members steps deeper true
        advance
        return .ofMembers members
    | some byte =>
      if Cursor.isDigit byte then return .number (← number false) else failThere .noValue

def items : (steps depth : Nat) → (first : Bool) → Reader (List Json)
  | 0, _, _ => failThere .endOfList
  | steps + 1, depth, first => do
    if ← hasItem first then
      let item ← value steps depth
      let rest ← items steps depth false
      return item :: rest
    else return []

def members : (steps depth : Nat) → (first : Bool) → Reader (List (String × Json))
  | 0, _, _ => failThere .endOfObject
  | steps + 1, depth, first => do
    if ← hasMember first then
      let name ← key
      colon
      let content ← value steps depth
      let rest ← members steps depth false
      return (name, content) :: rest
    else return []

end

def finish : Reader Unit := do
  match ← peekSolid with
  | none => return ()
  | some _ => failThere .trailingCharacters

/-- A value that fills the whole text. Every level and every item uses up a byte, which bounds the
steps. -/
def document : Reader Json := do
  let result ← value (2 * (← get).rest.length + 2) depthLimit
  finish
  return result

end Reader

def parse (text : String) : Except Failure Json :=
  match Reader.document.run (Cursor.ofBytes .text (Utf8.encode text)) with
  | .ok (result, _) => .ok result
  | .error failure => .error failure

end FigureScript.Json
