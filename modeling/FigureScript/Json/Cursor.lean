/-!
# Reading positions

A `Cursor` stands in a text and knows what is left of it. Errors are reported by line and column: the
line is one more than the number of line breaks before the position, the column counts the bytes
after the last of them.

A text in memory is addressed by the bytes that were used up, or by the byte after them when that one
is at fault. A stream is addressed by the bytes that were pulled from it, and a byte that was only
looked at has been pulled.
-/

namespace FigureScript.Json

/-- How a position is counted. -/
inductive Source where
  | text
  | stream
  deriving DecidableEq, Repr

structure Position where
  line : Nat := 1
  column : Nat := 0
  deriving DecidableEq, Repr

def Position.after (position : Position) (byte : UInt8) : Position :=
  if byte = 10 then ⟨position.line + 1, 0⟩ else ⟨position.line, position.column + 1⟩

structure Cursor where
  source : Source
  rest : List UInt8
  /-- The position behind the bytes that were used up. -/
  used : Position := {}
  /-- Whether the next byte has been looked at. -/
  ahead : Bool := false

namespace Cursor

def ofBytes (source : Source) (bytes : List UInt8) : Cursor := { source, rest := bytes }

def beyond (cursor : Cursor) : Position :=
  match cursor.rest with
  | [] => cursor.used
  | byte :: _ => cursor.used.after byte

/-- Where an error stands that concerns the bytes used up. -/
def here (cursor : Cursor) : Position :=
  match cursor.source with
  | .text => cursor.used
  | .stream => if cursor.ahead then cursor.beyond else cursor.used

def there (cursor : Cursor) : Position :=
  match cursor.source with
  | .text => cursor.beyond
  | .stream => cursor.here

def look (cursor : Cursor) : Cursor := { cursor with ahead := true }

/-- The next byte, with the cursor that has looked at it. -/
def peek (cursor : Cursor) : Option UInt8 × Cursor := (cursor.rest.head?, cursor.look)

def next (cursor : Cursor) : Option (UInt8 × Cursor) :=
  match cursor.rest with
  | [] => none
  | byte :: rest =>
    some (byte, { cursor with rest, used := cursor.used.after byte, ahead := false })

def advance (cursor : Cursor) : Cursor :=
  match cursor.next with
  | some (_, after) => after
  | none => cursor

/-- Skip the bytes that `skip` holds of, looking at the first one it does not hold of. -/
def skipWhile (skip : UInt8 → Bool) (cursor : Cursor) : Cursor :=
  go cursor.rest cursor.used
where
  go : List UInt8 → Position → Cursor
    | [], used => { cursor with rest := [], used, ahead := true }
    | byte :: rest, used =>
      if skip byte then go rest (used.after byte)
      else { cursor with rest := byte :: rest, used, ahead := true }

def isBlank (byte : UInt8) : Bool := byte = 32 || byte = 10 || byte = 9 || byte = 13

def isDigit (byte : UInt8) : Bool := 48 ≤ byte && byte ≤ 57

def skipBlanks (cursor : Cursor) : Cursor := cursor.skipWhile isBlank

def skipDigits (cursor : Cursor) : Cursor := cursor.skipWhile isDigit

end Cursor

end FigureScript.Json
