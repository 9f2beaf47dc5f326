import FigureScript.Text.Utf8

/-!
# Texts without control sequences

Log lines go to files and streams that are no terminals, so whatever would steer a terminal is left out:
controls other than tabs and line ends, and the sequences that an escape begins. A text in which every
character is shown stays as it is.
-/

namespace FigureScript.Visible

inductive Mode where
  /-- In none. -/
  | text
  /-- Behind an escape. -/
  | escape
  /-- Behind an escape and marks that go before its last character. -/
  | escapeMarks
  /-- In the numbers and marks of a control sequence. -/
  | control
  /-- In a command for the terminal, which a bell ends. -/
  | command
  /-- At the start of a string for a device. -/
  | device
  /-- In the numbers of a string for a device. -/
  | deviceNumbers
  /-- In the marks of a string for a device. -/
  | deviceMarks
  /-- In a string that is passed over. -/
  | passed
  deriving DecidableEq, Repr

def isBreak (character : Char) : Bool :=
  character = '\t' || character = '\n' || character = '\x0c' || character = '\r'

/-- True for the characters that are shown outside of sequences. -/
def isShown (character : Char) : Bool :=
  isBreak character || (0x20 ≤ character.toNat && character.toNat ≠ 0x7f)

/-- True for the characters that are shown where a text stands. Breaks are shown within sequences, but
not within strings. -/
def isShownIn : Mode → Char → Bool
  | .text => isShown
  | .escape | .escapeMarks | .control => isBreak
  | .command | .device | .deviceNumbers | .deviceMarks | .passed => fun _ => false

/-- True for the byte that ends strings, which is looked for within characters too. -/
def holdsStringEnd (character : Char) : Bool :=
  (Utf8.encode character.toString).contains 0x9c

/-- What the first character behind an escape begins, if it is no mark. -/
def opened : Char → Mode
  | '[' => .control
  | ']' => .command
  | 'P' => .device
  | 'X' | '^' | '_' => .passed
  | _ => .text

/-- Where a text stands behind a character. An escape begins anew everywhere, and two controls end every
sequence. Characters beyond ASCII mean nothing in a sequence. -/
def next (mode : Mode) (character : Char) : Mode :=
  let code := character.toNat
  let isMark := 0x20 ≤ code && code < 0x30
  let isFinal := 0x40 ≤ code && code < 0x7f
  if code = 0x1b then .escape
  else if code = 0x18 || code = 0x1a then .text
  else
    match mode with
    | .text => .text
    | .escape =>
      if isMark then .escapeMarks
      else if 0x30 ≤ code && code < 0x7f then opened character
      else .escape
    | .escapeMarks => if 0x30 ≤ code && code < 0x7f then .text else .escapeMarks
    | .control => if isFinal then .text else .control
    | .command => if code = 7 then .text else .command
    | .device =>
      if isMark then .deviceMarks
      else if 0x30 ≤ code && code < 0x40 then .deviceNumbers
      else if isFinal then .passed
      else .device
    | .deviceNumbers =>
      if isMark then .deviceMarks
      else if 0x3c ≤ code && code < 0x7f then .passed
      else .deviceNumbers
    | .deviceMarks => if 0x30 ≤ code && code < 0x7f then .passed else .deviceMarks
    | .passed => if holdsStringEnd character then .text else .passed

/-- The shown characters. Once one is shown, also a break within a sequence, all are that can be; the
sequence goes on behind them, unless one of them is beyond ASCII. `running` is true behind a character
that was shown. -/
def characters (running : Bool) (mode : Mode) : List Char → List Char
  | [] => []
  | character :: rest =>
    if running && isShown character then
      character :: characters true (if character.toNat < 0x80 then mode else .text) rest
    else if isShownIn mode character then
      character :: characters true (next mode character) rest
    else characters false (next mode character) rest

def text (value : String) : String :=
  String.ofList (characters false .text value.toList)

/-- No character that is shown begins a sequence. -/
theorem next_text_of_shown {character : Char} (shown : isShown character = true) :
    next .text character = .text := by
  have noEscape : character.toNat ≠ 0x1b := by
    intro code
    have escape : character = '\x1b' := Char.ext (UInt32.toNat_inj.mp code)
    subst escape
    exact absurd shown (by decide)
  simp [next, noEscape]

theorem characters_of_shown {running : Bool} {values : List Char}
    (shown : ∀ character ∈ values, isShown character = true) :
    characters running .text values = values := by
  induction values generalizing running with
  | nil => rfl
  | cons character rest ih =>
      have first : isShown character = true := shown character (by simp)
      have others : ∀ character ∈ rest, isShown character = true :=
        fun character member => shown character (by simp [member])
      have stays := next_text_of_shown first
      cases running <;> simp [characters, isShownIn, first, stays, ih others]

/-- Nothing is left out of a text in which every character is shown. -/
theorem text_of_shown {value : String}
    (shown : ∀ character ∈ value.toList, isShown character = true) : text value = value := by
  simp [text, characters_of_shown shown]

end FigureScript.Visible
