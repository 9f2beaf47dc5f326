import FigureScript.Text.Extender
import FigureScript.Text.Ignorable
import FigureScript.Text.Unprintable

/-!
# Texts in messages

Messages show a text between double quotes. Quotes, backslashes and all characters that cannot be seen
by themselves are escaped.
-/

namespace FigureScript.Shown

def isHidden (character : Char) : Bool :=
  Extender.isExtender character || Ignorable.isIgnorable character ||
    Unprintable.isUnprintable character

/-- True for the characters that are shown by their numbers. The printable ones of ASCII, which most
texts consist of, are not looked up. -/
def isNumbered (character : Char) : Bool :=
  if ' ' ≤ character ∧ character ≤ '~' then false else isHidden character

/-- Not looking up the printable characters of ASCII makes no difference. -/
theorem isNumbered_eq_isHidden (character : Char) :
    isNumbered character = isHidden character := by
  unfold isNumbered
  split
  · next printable =>
      have first : 32 ≤ character.toNat := printable.1
      have last : character.toNat < 127 := Nat.lt_succ_of_le printable.2
      have extender : Extender.isExtender character = false :=
        CodeRanges.not_contains_of_lt Extender.ranges_ascend (by omega)
      have ignorable : Ignorable.isIgnorable character = false :=
        CodeRanges.not_contains_of_lt Ignorable.ranges_ascend (by omega)
      have unprintable : Unprintable.isUnprintable character = false :=
        Unprintable.not_contains_ascii first last
      rw [isHidden, extender, ignorable, unprintable]
      rfl
  · rfl

def escaped (character : Char) : List Char :=
  if character = '"' then ['\\', '"']
  else if character = '\\' then ['\\', '\\']
  else if character = '\t' then ['\\', 't']
  else if character = '\r' then ['\\', 'r']
  else if character = '\n' then ['\\', 'n']
  else if character = '\x00' then ['\\', '0']
  else if isNumbered character then
    ['\\', 'u', '\x7b'] ++ Nat.toDigits 16 character.toNat ++ ['\x7d']
  else [character]

def text (value : String) : String :=
  String.ofList ('"' :: value.toList.flatMap escaped ++ ['"'])

end FigureScript.Shown
