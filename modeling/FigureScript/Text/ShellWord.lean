import FigureScript.Text.Utf8

/-!
# Words for a shell

A path as it can be pasted into a command line: as it is if no shell takes it for anything else, in
double quotes if an apostrophe is the reason for quoting it, and otherwise in single quotes. Bytes that
cannot be printed are numbered.
-/

namespace FigureScript.ShellWord

/-- Controls and all bytes beyond ASCII. -/
def isNumbered (byte : UInt8) : Bool := byte < 32 || 127 ≤ byte

def isAmong (characters : String) (byte : UInt8) : Bool :=
  (Utf8.encode characters).contains byte

/-- The bytes that a shell reads as more than themselves wherever they stand, in double quotes too. -/
def isSpecial : UInt8 → Bool := isAmong "!\"$&()*;<=>[^`|?\\"

/-- The bytes that a shell reads as more than themselves at the start of a word. -/
def isSpecialAtStart : UInt8 → Bool := isAmong "#~"

/-- True for a word that does not stand for itself. A colon counts, because one ends the word in a
complaint. -/
def needsQuotes (word : List UInt8) : Bool :=
  word.isEmpty || word.any (fun byte => isNumbered byte || isSpecial byte || isAmong " ':" byte) ||
    (word.take 1).any isSpecialAtStart

/-- True for a word with an apostrophe and nothing that would be read differently in double quotes. -/
def fitsDoubleQuotes (word : List UInt8) : Bool :=
  word.any (isAmong "'") &&
    !word.any (fun byte => isNumbered byte || isSpecial byte || isAmong "\x7b\x7d" byte) &&
    !(word.drop 1).any isSpecialAtStart

def letters : List (UInt8 × Char) :=
  [(7, 'a'), (8, 'b'), (9, 't'), (10, 'n'), (11, 'v'), (12, 'f'), (13, 'r')]

def octalDigit (value : Nat) : Char := Char.ofNat (48 + value % 8)

/-- A byte by its letter or by its number. -/
def numbered (byte : UInt8) : List Char :=
  match letters.lookup byte with
  | some letter => ['\\', letter]
  | none =>
    let code := byte.toNat
    ['\\', octalDigit (code / 64), octalDigit (code / 8), octalDigit code]

/-- What stands between single quotes. Numbered bytes have quotes of their own; `inNumbers` tells whether
these are the open ones. -/
def quoted (inNumbers : Bool) : List UInt8 → List Char
  | [] => []
  | byte :: rest =>
    if isNumbered byte then
      (if inNumbers then [] else ['\'', '$', '\'']) ++ numbered byte ++ quoted true rest
    else if isAmong "'" byte then
      ['\'', '\\', '\'', '\''] ++ quoted false rest
    else
      (if inNumbers then ['\'', '\''] else []) ++ Char.ofNat byte.toNat :: quoted false rest

def text (word : String) : String :=
  let bytes := Utf8.encode word
  if !needsQuotes bytes then word
  else if fitsDoubleQuotes bytes then "\"" ++ word ++ "\""
  else String.ofList ('\'' :: quoted false bytes ++ ['\''])

end FigureScript.ShellWord
