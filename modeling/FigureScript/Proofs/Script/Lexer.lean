import FigureScript.Script.Literal

namespace FigureScript

/-! # The words of a line

A line of a script is read from left to right into words, text literals and single marks; blanks only
separate. Reading is a machine with three modes, so that the tokens of a line can be put together
from those of its parts.
-/

/-- Where a text literal ends: at the next quote, or at the next one that no backslash takes with
it. -/
inductive Quoting where
  | plain
  | escaping
  deriving DecidableEq, Repr

inductive Token where
  | word (text : String)
  | quoted (text : String)
  /-- A literal that its line does not close. -/
  | unclosed (text : String)
  | mark (character : Char)
  deriving DecidableEq, Repr

namespace Lexer

def isWordCharacter (character : Char) : Bool := character.isAlphanum || character == '_'

inductive Mode where
  | between
  /-- In a word, with the characters read so far, the last one first. -/
  | word (reversed : List Char)
  /-- In a literal; `taken` tells that a backslash takes the next character. -/
  | literal (taken : Bool) (reversed : List Char)
  deriving DecidableEq, Repr

/-- The token that ends where the line ends. -/
def finish : Mode → List Token
  | .between => []
  | .word reversed => [.word (String.ofList reversed.reverse)]
  | .literal _ reversed => [.unclosed (String.ofList reversed.reverse)]

def start (character : Char) : List Token × Mode :=
  if character = '\'' then ([], .literal false [])
  else if isWordCharacter character then ([], .word [character])
  else if character = ' ' then ([], .between)
  else ([.mark character], .between)

def step (quoting : Quoting) : Mode → Char → List Token × Mode
  | .between, character => start character
  | .word reversed, character =>
    if isWordCharacter character then ([], .word (character :: reversed))
    else (finish (.word reversed) ++ (start character).1, (start character).2)
  | .literal true reversed, character => ([], .literal false (character :: reversed))
  | .literal false reversed, character =>
    if character = '\'' then ([.quoted (String.ofList reversed.reverse)], .between)
    else ([], .literal (quoting == .escaping && character == '\\') (character :: reversed))

/-- The tokens that are complete after some characters, and the mode they leave. -/
def run (quoting : Quoting) (mode : Mode) : List Char → List Token × Mode
  | [] => ([], mode)
  | character :: rest =>
    let first := step quoting mode character
    let others := run quoting first.2 rest
    (first.1 ++ others.1, others.2)

def tokensOf (quoting : Quoting) (characters : List Char) : List Token :=
  (run quoting .between characters).1 ++ finish (run quoting .between characters).2

def tokens (quoting : Quoting) (line : String) : List Token := tokensOf quoting line.toList

theorem run_append (quoting : Quoting) (mode : Mode) (left right : List Char) :
    run quoting mode (left ++ right) =
      ((run quoting mode left).1 ++ (run quoting (run quoting mode left).2 right).1,
        (run quoting (run quoting mode left).2 right).2) := by
  induction left generalizing mode with
  | nil => rfl
  | cons character rest ih => simp only [List.cons_append, run, ih, List.append_assoc]

def Mode.isOpen : Mode → Bool
  | .literal .. => false
  | .between | .word _ => true

/-- `characters` read as `tokens` and leave no literal open. -/
structure Spells (quoting : Quoting) (characters : List Char) (tokens : List Token) : Prop where
  read : tokensOf quoting characters = tokens
  closed : (run quoting .between characters).2.isOpen = true

namespace Spells

variable {quoting : Quoting} {left right : List Char} {first second : List Token}

theorem nil : Spells quoting [] [] := ⟨rfl, rfl⟩

/-- Characters that end a word and belong to none. -/
def separates (character : Char) : Bool := !isWordCharacter character && character != '\''

def separator (character : Char) : List Token :=
  if character = ' ' then [] else [.mark character]

theorem step_separator (quoting : Quoting) {mode : Mode} {character : Char}
    (out : mode.isOpen = true) (separating : separates character = true) :
    step quoting mode character = (finish mode ++ separator character, .between) := by
  simp only [separates, Bool.and_eq_true, Bool.not_eq_true', bne_iff_ne] at separating
  have begun : start character = (separator character, .between) := by
    simp only [start, separator, if_neg separating.2, separating.1, Bool.false_eq_true, if_false]
    split <;> rfl
  cases mode with
  | between => simp only [step, begun, finish, List.nil_append]
  | word reversed => simp only [step, separating.1, begun, Bool.false_eq_true, if_false]
  | literal taken reversed => simp [Mode.isOpen] at out

/-- Parts on either side of a separator are read independently. -/
theorem separate (before : Spells quoting left first) (character : Char)
    (after : Spells quoting right second) (separating : separates character = true := by decide) :
    Spells quoting (left ++ character :: right) (first ++ separator character ++ second) := by
  have moved := step_separator quoting before.closed separating
  constructor
  · rw [← before.read, ← after.read]
    simp only [tokensOf, run_append, run, moved, List.append_assoc]
  · simpa only [run_append, run, moved] using after.closed

theorem lead (character : Char) (after : Spells quoting right second)
    (separating : separates character = true := by decide) :
    Spells quoting (character :: right) (separator character ++ second) :=
  nil.separate character after separating

theorem trail (before : Spells quoting left first) (character : Char)
    (separating : separates character = true := by decide) :
    Spells quoting (left ++ [character]) (first ++ separator character) := by
  simpa using before.separate character nil separating

theorem run_word (quoting : Quoting) (reversed : List Char) {characters : List Char}
    (letters : ∀ character ∈ characters, isWordCharacter character = true) :
    run quoting (.word reversed) characters = ([], .word (characters.reverse ++ reversed)) := by
  induction characters generalizing reversed with
  | nil => rfl
  | cons character rest ih =>
      have next : step quoting (.word reversed) character = ([], .word (character :: reversed)) := by
        simp only [step, letters character (by simp), if_true]
      have others := ih (character :: reversed)
        fun other member => letters other (by simp [member])
      simp only [run, next, others, List.nil_append, List.reverse_cons, List.append_assoc,
        List.singleton_append]

end Spells

def IsWord (text : String) : Prop :=
  text.toList ≠ [] ∧ ∀ character ∈ text.toList, isWordCharacter character = true

instance (text : String) : Decidable (IsWord text) :=
  @instDecidableAnd _ _ _ (List.decidableBAll _ _)

/-- A text that fills the literal it is put into: the closing quote is the one behind it. -/
def Fills (quoting : Quoting) (text : String) : Prop :=
  run quoting (.literal false []) text.toList = ([], .literal false text.toList.reverse)

/-- No character of the text means anything in a literal. -/
def Harmless (text : String) : Prop :=
  ∀ character ∈ text.toList,
    character ≠ '\'' ∧ character ≠ '\\' ∧ character ≠ '\n' ∧ character ≠ '\r'

instance (text : String) : Decidable (Harmless text) := List.decidableBAll _ _

/-- Characters that neither close a literal nor take the next character with them. -/
theorem run_literal (quoting : Quoting) (reversed : List Char) {characters : List Char}
    (unquoted : ∀ character ∈ characters, character ≠ '\'')
    (untaken : ∀ character ∈ characters, (quoting == .escaping && character == '\\') = false) :
    run quoting (.literal false reversed) characters =
      ([], .literal false (characters.reverse ++ reversed)) := by
  induction characters generalizing reversed with
  | nil => rfl
  | cons character rest ih =>
      have next : step quoting (.literal false reversed) character =
          ([], .literal false (character :: reversed)) := by
        simp only [step, if_neg (unquoted character (by simp)), untaken character (by simp)]
      have others := ih (character :: reversed)
        (fun other member => unquoted other (by simp [member]))
        (fun other member => untaken other (by simp [member]))
      simp only [run, next, others, List.nil_append, List.reverse_cons, List.append_assoc,
        List.singleton_append]

theorem fills_of_harmless {quoting : Quoting} {text : String} (harmless : Harmless text) :
    Fills quoting text := by
  have whole := run_literal quoting [] (fun character member => (harmless character member).1)
    fun character member => by simp [(harmless character member).2]
  rwa [List.append_nil] at whole

theorem fills_plain {text : String} (unquoted : '\'' ∉ text.toList) : Fills .plain text := by
  have whole := run_literal .plain []
    (fun character member same => unquoted (same ▸ member)) fun _ _ => rfl
  rwa [List.append_nil] at whole

/-- How many backslashes a text ends with. -/
def trailingBackslashes (text : String) : Nat :=
  (text.toList.reverse.takeWhile (· == '\\')).length

/-- The last of the characters read so far takes the next one with it when the backslashes at the end
are odd in number. -/
theorem run_escaping (reversed : List Char) (unquoted : '\'' ∉ reversed) :
    run .escaping (.literal false []) reversed.reverse =
      ([], .literal ((reversed.takeWhile (· == '\\')).length % 2 == 1) reversed) := by
  induction reversed with
  | nil => rfl
  | cons character rest ih =>
      have others := ih fun member => unquoted (List.mem_cons_of_mem _ member)
      have plain : character ≠ '\'' := fun same => unquoted (same ▸ List.mem_cons_self)
      rw [List.reverse_cons, run_append, others]
      by_cases backslash : character = '\\'
      · subst backslash
        rcases Nat.mod_two_eq_zero_or_one (rest.takeWhile (· == '\\')).length with even | odd
        · simp +decide [run, step, even, Nat.add_mod]
        · simp +decide [run, step, odd, Nat.add_mod]
      · rcases Nat.mod_two_eq_zero_or_one (rest.takeWhile (· == '\\')).length with even | odd
        · simp [run, step, even, backslash, plain]
        · simp [run, step, odd, backslash]

theorem fills_escaping {text : String} (unquoted : '\'' ∉ text.toList)
    (even : trailingBackslashes text % 2 = 0) : Fills .escaping text := by
  have whole := run_escaping text.toList.reverse (by simpa using unquoted)
  rw [trailingBackslashes] at even
  rwa [List.reverse_reverse, even] at whole

namespace Spells

variable {text : String}

theorem word (quoting : Quoting) (isWord : IsWord text) :
    Spells quoting text.toList [.word text] := by
  obtain ⟨present, letters⟩ := isWord
  cases characters : text.toList with
  | nil => exact absurd characters present
  | cons character rest =>
      rw [characters] at letters
      have letter := letters character (by simp)
      have unquoted : character ≠ '\'' := by
        rintro rfl
        exact absurd letter (by decide)
      have begun : start character = ([], .word [character]) := by
        simp only [start, if_neg unquoted, letter, if_true]
      have others := run_word quoting [character]
        fun other (member : other ∈ rest) => letters other (by simp [member])
      have whole : rest.reverse ++ [character] = text.toList.reverse := by simp [characters]
      constructor
      · simp only [tokensOf, run, step, begun, others, whole, finish, List.reverse_reverse,
          String.ofList_toList, List.nil_append]
      · simp only [run, step, begun, others, Mode.isOpen]

theorem literal {quoting : Quoting} (fills : Fills quoting text) :
    Spells quoting (Literal.text text).toList [.quoted text] := by
  have characters : (Literal.text text).toList = '\'' :: (text.toList ++ ['\'']) := by
    simp [Literal.text]
  have inside : run quoting (.literal false []) (text.toList ++ ['\'']) =
      ([.quoted text], .between) := by
    rw [run_append, fills]
    simp [run, step]
  have begun : step quoting .between '\'' = ([], .literal false []) := rfl
  rw [characters]
  constructor
  · simp only [tokensOf, run, begun, inside, finish, List.nil_append, List.append_nil]
  · simp only [run, begun, inside, Mode.isOpen]

end Spells

end Lexer

end FigureScript
