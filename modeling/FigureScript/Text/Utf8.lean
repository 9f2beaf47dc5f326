/-!
# UTF-8

Bytes as characters. `step` reads one character or passes over the longest start of one that cannot be
completed; reading stops at such a place (`decode`) or puts a replacement character there (`lossy`).
-/

namespace FigureScript.Utf8

/-- The bounds of the bytes that follow a first byte; `none` if no character starts with it. The first
of them is narrower where more bytes than needed, a surrogate or a number beyond the last character
would be written otherwise. -/
def followers (first : UInt8) : Option (List (UInt8 × UInt8)) :=
  if first < 0x80 then some []
  else if first < 0xc2 then none
  else if first < 0xe0 then some [(0x80, 0xbf)]
  else if first = 0xe0 then some [(0xa0, 0xbf), (0x80, 0xbf)]
  else if first = 0xed then some [(0x80, 0x9f), (0x80, 0xbf)]
  else if first < 0xf0 then some [(0x80, 0xbf), (0x80, 0xbf)]
  else if first = 0xf0 then some [(0x90, 0xbf), (0x80, 0xbf), (0x80, 0xbf)]
  else if first < 0xf4 then some [(0x80, 0xbf), (0x80, 0xbf), (0x80, 0xbf)]
  else if first = 0xf4 then some [(0x80, 0x8f), (0x80, 0xbf), (0x80, 0xbf)]
  else none

/-- The number of bytes that keep to their bounds, up to the first that does not. -/
def fitting : List (UInt8 × UInt8) → List UInt8 → Nat
  | (low, high) :: bounds, byte :: rest =>
    if low ≤ byte ∧ byte ≤ high then fitting bounds rest + 1 else 0
  | _, _ => 0

def leadingBits (first : UInt8) : Nat :=
  if first < 0x80 then first.toNat
  else if first < 0xe0 then first.toNat % 32
  else if first < 0xf0 then first.toNat % 16
  else first.toNat % 8

/-- The character at the front of `first :: rest`, or `none`, with the number of bytes of `rest` that
belong to it. -/
def step (first : UInt8) (rest : List UInt8) : Option Char × Nat :=
  match followers first with
  | none => (none, 0)
  | some bounds =>
    let count := fitting bounds rest
    if count = bounds.length then
      let code := (rest.take count).foldl (fun code byte => code * 64 + byte.toNat % 64)
        (leadingBits first)
      (some (Char.ofNat code), count)
    else (none, count)

/-- The characters of a text, or the number of bytes in front of the first one that is broken. -/
def decode (bytes : List UInt8) : Except Nat (List Char) :=
  go bytes.length bytes 0
where
  go : Nat → List UInt8 → Nat → Except Nat (List Char)
    | 0, _, _ => .ok []
    | _, [], _ => .ok []
    | steps + 1, first :: rest, before =>
      match step first rest with
      | (none, _) => .error before
      | (some character, count) =>
        match go steps (rest.drop count) (before + 1 + count) with
        | .ok characters => .ok (character :: characters)
        | .error position => .error position

/-- The text that the bytes spell, if they spell one. -/
def text? (bytes : List UInt8) : Option String :=
  match decode bytes with
  | .ok characters => some (String.ofList characters)
  | .error _ => none

/-- The text with a replacement character for each broken place. -/
def lossy (bytes : List UInt8) : String :=
  String.ofList (go bytes.length bytes)
where
  go : Nat → List UInt8 → List Char
    | 0, _ => []
    | _, [] => []
    | steps + 1, first :: rest =>
      let (character, count) := step first rest
      character.getD '\ufffd' :: go steps (rest.drop count)

def encode (text : String) : List UInt8 := text.toUTF8.toList

end FigureScript.Utf8
