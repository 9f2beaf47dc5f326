import FigureScript.Proofs.Script.Numerals
import FigureScript.Proofs.Script.Vocabulary

namespace FigureScript

open Lexer

/-! # Statements as tokens

The tokens of expressions and statements, defined on their structure. Main statement: the written
line of a legible statement is read as exactly these tokens.
-/

namespace Expr

mutual

/-- The tokens of the text of an expression. -/
def tokens : Expr → List Token
  | .name identifier => [.word identifier]
  | .number value => Lexer.tokens .plain (Literal.number value)
  | .natural value => [.word (toString value)]
  | .truth value => [.word (Literal.truth value)]
  | .quoted value => [.quoted value]
  | .list items => .mark '[' :: [.mark ','].intercalate (tokensEach items) ++ [.mark ']']
  | .single item => .mark '(' :: tokens item ++ [.mark ',', .mark ')']
  | .member object field => tokens object ++ [.mark '.', .word field]
  | .index object positions =>
    tokens object ++ .mark '[' :: [.mark ','].intercalate (tokensEach positions) ++ [.mark ']']
  | .call function arguments =>
    tokens function ++ .mark '(' :: [.mark ','].intercalate (tokensEach arguments) ++ [.mark ')']
  | .named parameter value => .word parameter :: .mark '=' :: tokens value
  | .sum left right => tokens left ++ .mark '+' :: tokens right
  | .difference left right => tokens left ++ .mark '-' :: tokens right
  | .collect item element source =>
    .mark '[' :: tokens item ++ [.word "for", .word element, .word "in"] ++ tokens source ++
      [.mark ']']

def tokensEach : List Expr → List (List Token)
  | [] => []
  | item :: rest => tokens item :: tokensEach rest

end

theorem tokensEach_eq_map (items : List Expr) : tokensEach items = items.map tokens := by
  induction items with
  | nil => rfl
  | cons item rest ih => simp only [tokensEach, ih, List.map_cons]

/-- Names are words, and texts leave their literals to be closed by their own quotes. -/
def Legible (quoting : Quoting) (expression : Expr) : Prop :=
  expression.Uses IsWord (Fills quoting)

end Expr

/-- What is read on both sides of a comma independently is read part by part. -/
theorem Lexer.read_separated {β : Type} {read : List Token → List β} (empty : read [] = [])
    (divide : ∀ left right, read (left ++ .mark ',' :: right) = read left ++ read right)
    (parts : List (List Token)) : read ([.mark ','].intercalate parts) = parts.flatMap read := by
  induction parts with
  | nil => exact empty
  | cons part rest ih =>
      cases rest with
      | nil => simp
      | cons second rest =>
          rw [List.intercalate_cons_cons, List.append_assoc, List.singleton_append, divide, ih,
            ← List.flatMap_cons]

namespace Lexer.Spells

variable {quoting : Quoting} {α : Type} {text : α → String} {tokens : α → List Token}

theorem separated {items : List α}
    (each : ∀ item ∈ items, Spells quoting (text item).toList (tokens item)) :
    Spells quoting (Literal.separated (items.map text)).toList
      ([.mark ','].intercalate (items.map tokens)) := by
  induction items with
  | nil => exact Spells.nil
  | cons item rest ih =>
      have first := each item (by simp)
      have others := ih fun other member => each other (by simp [member])
      cases rest with
      | nil => simpa [Literal.separated] using first
      | cons second rest =>
          -- A comma and a blank stand between two items; the blank leaves no token.
          have whole := first.separate ',' (others.lead ' ')
          simpa [Literal.separated, String.intercalate_cons_cons, separator] using whole

/-- Separated items with a mark on either side. -/
theorem enclosed {items : List α} (left right : Char)
    (each : ∀ item ∈ items, Spells quoting (text item).toList (tokens item))
    (opening : separates left = true := by decide)
    (closing : separates right = true := by decide) :
    Spells quoting (left :: ((Literal.separated (items.map text)).toList ++ [right]))
      (separator left ++ ([.mark ','].intercalate (items.map tokens) ++ separator right)) :=
  ((separated each).trail right closing).lead left opening

/-- The same behind what the items belong to. -/
theorem applied {front : List Char} {first : List Token} {items : List α}
    (before : Spells quoting front first) (left right : Char)
    (each : ∀ item ∈ items, Spells quoting (text item).toList (tokens item))
    (opening : separates left = true := by decide)
    (closing : separates right = true := by decide) :
    Spells quoting (front ++ left :: ((Literal.separated (items.map text)).toList ++ [right]))
      (first ++ separator left ++
        ([.mark ','].intercalate (items.map tokens) ++ separator right)) :=
  before.separate left ((separated each).trail right closing) opening

/-- A word, a blank, and what follows. -/
theorem precede (first : String) {characters : List Char} {others : List Token}
    (rest : Spells quoting characters others) (isWord : IsWord first := by decide) :
    Spells quoting (first.toList ++ ' ' :: characters) (.word first :: others) := by
  simpa [separator] using (Spells.word quoting isWord).separate ' ' rest

end Lexer.Spells

namespace Expr

open Lexer.Spells

mutual

theorem spells {quoting : Quoting} : (expression : Expr) → expression.Legible quoting →
    Spells quoting expression.text.toList expression.tokens
  | .name identifier, legible => by
      simpa only [text, tokens] using Spells.word quoting legible
  | .number value, _ => by
      obtain ⟨read, spelled, _⟩ := spellsNumber_number value
      have same : Lexer.tokens .plain (Literal.number value) = read := (spelled .plain).read
      simpa only [text, tokens, same] using spelled quoting
  | .natural value, _ => by
      have row := digits_toString value
      have letters := fun character member => isWordCharacter_of_isDigit (row.digit character member)
      simpa only [text, tokens] using Spells.word quoting ⟨row.present, letters⟩
  | .truth value, _ => by
      have isWord : IsWord (Literal.truth value) := by cases value <;> decide
      simpa only [text, tokens] using Spells.word quoting isWord
  | .quoted value, legible => by
      simpa only [text, tokens] using Spells.literal legible
  | .list items, legible => by
      have whole := enclosed '[' ']' (spellsEach items legible)
      simpa [text, tokens, texts_eq_map, tokensEach_eq_map, Literal.bracketed, separator] using whole
  | .single item, legible => by
      have whole := ((spells item legible).separate ',' (Spells.nil.lead ')')).lead '('
      simpa [text, tokens, separator] using whole
  | .member object field, legible => by
      have whole := (spells object legible.1).separate '.' (Spells.word quoting legible.2)
      simpa [text, tokens, separator] using whole
  | .index object positions, legible => by
      have whole := (spells object legible.1).applied '[' ']' (spellsEach positions legible.2)
      simpa [text, tokens, texts_eq_map, tokensEach_eq_map, Literal.bracketed, separator] using whole
  | .call function arguments, legible => by
      have whole := (spells function legible.1).applied '(' ')' (spellsEach arguments legible.2)
      simpa [text, tokens, texts_eq_map, tokensEach_eq_map, separator] using whole
  | .named parameter value, legible => by
      have whole := (Spells.word quoting legible.1).separate '=' (spells value legible.2)
      simpa [text, tokens, separator] using whole
  | .sum left right, legible => by
      have whole := (spells left legible.1).separate '+' (spells right legible.2)
      simpa [text, tokens, separator] using whole
  | .difference left right, legible => by
      have whole := (spells left legible.1).separate '-' (spells right legible.2)
      simpa [text, tokens, separator] using whole
  | .collect item element source, legible => by
      have origin := precede "in" ((spells source legible.2.2).trail ']')
      have loop := precede "for" (precede element origin legible.2.1)
      have whole := ((spells item legible.1).separate ' ' loop).lead '['
      simpa [text, tokens, separator] using whole

theorem spellsEach {quoting : Quoting} : (items : List Expr) →
    UsesEach IsWord (Fills quoting) items → ∀ item ∈ items, Spells quoting item.text.toList item.tokens
  | [], _ => by simp
  | first :: rest, legible => by
      intro item member
      rcases List.mem_cons.mp member with same | member
      · exact same ▸ spells first legible.1
      · exact spellsEach rest legible.2 item member

end

end Expr

namespace Statement

/-- The tokens of the line of a statement. Indentation leaves none. -/
def tokens : Statement → List Token
  | .importModule module => [.word "import", .word module]
  | .importAs module name => [.word "import", .word module, .word "as", .word name]
  | .importFrom module item => [.word "from", .word module, .word "import", .word item]
  | .importAll module => [.word "from", .word module, .word "import", .mark '*']
  | .attempt => [.word "try", .mark ':']
  | .rescue failure name =>
    [.word "except", .word failure, .word "as", .word name, .mark ':']
  | .assign targets value =>
    [.mark ','].intercalate (targets.map fun target => [.word target]) ++ .mark '=' :: value.tokens
  | .extend target value => .word target :: .mark '+' :: .mark '=' :: value.tokens
  | .evaluate value => value.tokens
  | .nested inner => inner.tokens

def Legible (quoting : Quoting) (statement : Statement) : Prop :=
  statement.Uses IsWord (Fills quoting)

open Lexer.Spells

variable {quoting : Quoting} {statement : Statement}

theorem spells (legible : statement.Legible quoting) :
    Spells quoting statement.text.toList statement.tokens := by
  induction statement with
  | importModule module =>
      simpa [text, tokens] using precede "import" (Spells.word quoting legible)
  | importAs module name =>
      have renamed := precede "as" (Spells.word quoting legible.2)
      simpa [text, tokens] using precede "import" (precede module renamed legible.1)
  | importFrom module item =>
      have chosen := precede "import" (Spells.word quoting legible.2)
      simpa [text, tokens] using precede "from" (precede module chosen legible.1)
  | importAll module =>
      have chosen := precede "import" ((Spells.nil : Spells quoting [] []).lead '*')
      have whole := precede "from" (precede module chosen legible)
      simpa [text, tokens, separator] using whole
  | attempt =>
      have word : IsWord "try" := by decide
      simpa [text, tokens, separator] using (Spells.word quoting word).trail ':'
  | rescue failure name =>
      have renamed := precede "as" ((Spells.word quoting legible.2).trail ':')
      have whole := precede "except" (precede failure renamed legible.1)
      simpa [text, tokens, separator] using whole
  | assign targets value =>
      have names : Spells quoting (Literal.separated (targets.map id)).toList
          ([.mark ','].intercalate (targets.map fun target => [.word target])) :=
        separated fun target member => Spells.word quoting (legible.1 target member)
      have whole := names.separate ' ' (((value.spells legible.2).lead ' ').lead '=')
      simpa [text, tokens, separator] using whole
  | extend target value =>
      have sum := (((value.spells legible.2).lead ' ').lead '=').lead '+'
      simpa [text, tokens, separator] using precede target sum legible.1
  | evaluate value => simpa only [text, tokens] using value.spells legible
  | nested inner ih =>
      have whole := ((((ih legible).lead ' ').lead ' ').lead ' ').lead ' '
      simpa [text, tokens, separator] using whole

/-- A legible statement is read as its tokens. -/
theorem tokens_text (legible : statement.Legible quoting) :
    Lexer.tokens quoting statement.text = statement.tokens :=
  (spells legible).read

end Statement

theorem Confined.uses_words {names : List String} {quote : String → Prop}
    {statements : List Statement} (confined : Confined names quote statements)
    (words : ∀ name ∈ names, IsWord name) :
    ∀ statement ∈ statements, statement.Uses IsWord quote :=
  fun statement member => (confined statement member).mono words fun _ quoted => quoted

theorem Confined.legible {names : List String} {quote : String → Prop} {quoting : Quoting}
    {statements : List Statement} (confined : Confined names quote statements)
    (fills : ∀ text, quote text → Fills quoting text)
    (words : ∀ name ∈ names, IsWord name) :
    ∀ statement ∈ statements, statement.Legible quoting :=
  fun statement member => (confined statement member).mono words fills

end FigureScript
