import FigureScript.Proofs.Script.Reading

namespace FigureScript

open Lexer

/-! # Names bound before they are read

Which names a line of the script binds and which words it reads is decided on its tokens alone.
`BoundBeforeRead` says of whole scripts that names are read only behind a line that binds them. What
an expression reads of the generated names is in its vocabulary.
-/

/-- The names that scripts give to their own values. -/
def generatedNames : List String :=
  ["sns", "itertools", "palette", "lines", "fig", "ax", "ax2", "axs", "labels", "lgd", "c", "x",
    "y", "e", "special"]

namespace Lexer

def words : List Token → List String
  | [] => []
  | .word text :: rest => text :: words rest
  | _ :: rest => words rest

@[simp] theorem words_nil : words [] = [] := rfl

@[simp] theorem words_word (text : String) (rest : List Token) :
    words (.word text :: rest) = text :: words rest := rfl

@[simp] theorem words_mark (character : Char) (rest : List Token) :
    words (.mark character :: rest) = words rest := rfl

@[simp] theorem words_append (left right : List Token) :
    words (left ++ right) = words left ++ words right := by
  induction left with
  | nil => rfl
  | cons token rest ih => cases token <;> simp [words, ih]

@[simp] theorem words_separated (parts : List (List Token)) :
    words ([.mark ','].intercalate parts) = parts.flatMap words :=
  read_separated words_nil (fun left right => by rw [words_append, words_mark]) parts

theorem mem_words {text : String} {tokens : List Token} :
    text ∈ words tokens ↔ .word text ∈ tokens := by
  induction tokens with
  | nil => simp
  | cons token rest ih => cases token <;> simp [words, ih]

/-- What the execution of a line does to names. -/
structure Effect where
  binds : List String
  reads : List String

/-- The names before the equals sign of an assignment, and what stands behind it. -/
def assignment? : List Token → Option (List String × List Token)
  | .word target :: .mark mark :: rest =>
    if mark = '=' then some ([target], rest)
    else if mark = ',' then (assignment? rest).map fun (targets, value) => (target :: targets, value)
    else none
  | _ => none

/-- Imports bind the last name they give, a handler binds the failure, and an assignment its targets.
All words of the value, and of any other line, are read. -/
def effect (tokens : List Token) : Effect :=
  match words tokens with
  | "import" :: rest => ⟨rest.getLast?.toList, []⟩
  | "from" :: rest => ⟨rest.drop 2, []⟩
  | "except" :: rest => ⟨rest.drop 2, rest.take 1⟩
  | all =>
    match assignment? tokens with
    | some (targets, value) => ⟨targets, words value⟩
    | none => ⟨[], all⟩

end Lexer

def Line.binds (line : String) : List String := (effect (tokens .plain line)).binds

def Line.reads (line : String) : List String := (effect (tokens .plain line)).reads

/-- Wherever one of `names` is read, an earlier line binds it. -/
def BoundBeforeRead (names lines : List String) : Prop :=
  ∀ before line after, lines = before ++ line :: after →
    ∀ name ∈ names, name ∈ Line.reads line → ∃ earlier ∈ before, name ∈ Line.binds earlier

/-! ## Words and vocabulary -/

/-- The name is not a generated one, or it is among `bound`. -/
def Known (bound : List String) (name : String) : Prop := name ∈ generatedNames → name ∈ bound

theorem not_isNumeral_of_mem {word : String} (generated : word ∈ generatedNames) :
    ¬ IsNumeral (.word word) := by
  have letters : ∀ name ∈ generatedNames, name ≠ "nan" ∧ name ≠ "inf" ∧
      name.toList.head?.all (fun first => !first.isDigit) = true := by decide
  obtain ⟨notNan, notInf, letter⟩ := letters word generated
  rintro (rfl | rfl | ⟨first, rest, characters, digit⟩)
  · exact notNan rfl
  · exact notInf rfl
  · simp [characters, digit] at letter

namespace Expr

variable {word quote : String → Prop} {target : String}

theorem number_not_generated {number : Float}
    (read : target ∈ words (Expr.number number).tokens) : target ∉ generatedNames := by
  intro generated
  obtain ⟨spelling, spelled, numerals, _⟩ := spellsNumber_number number
  have same : (Expr.number number).tokens = spelling := (spelled .plain).read
  rw [same] at read
  exact not_isNumeral_of_mem generated (numerals _ (mem_words.mp read))

theorem natural_not_generated {number : Nat} (read : target ∈ words (natural number).tokens) :
    target ∉ generatedNames := by
  intro generated
  rw [List.mem_singleton.mp read] at generated
  have row := digits_toString number
  cases characters : (toString number).toList with
  | nil => exact absurd characters row.present
  | cons first rest =>
      have digit := row.digit first (characters ▸ List.mem_cons_self)
      exact not_isNumeral_of_mem generated (.inr (.inr ⟨first, rest, characters, digit⟩))

mutual

/-- A generated name that is read in an expression is part of its vocabulary. -/
theorem Uses.words : (expression : Expr) → expression.Uses word quote →
    target ∈ Lexer.words expression.tokens → target ∈ generatedNames → word target
  | .name identifier, uses, read, _ => List.mem_singleton.mp read ▸ uses
  | .number value, _, read, generated => absurd generated (number_not_generated read)
  | .natural value, _, read, generated => absurd generated (natural_not_generated read)
  | .truth value, _, read, generated => by
      rw [List.mem_singleton.mp read] at generated
      cases value <;> exact absurd generated (by decide)
  | .quoted value, _, read, _ => absurd read List.not_mem_nil
  | .list items, uses, read, generated => by
      refine UsesEach.words items uses ?_ generated
      simpa [tokens] using read
  | .single item, uses, read, generated => by
      refine Uses.words item uses ?_ generated
      simpa [tokens] using read
  | .member object field, uses, read, generated => by
      simp only [tokens, words_append, words_word, words_mark, words_nil, List.mem_append,
        List.mem_singleton] at read
      rcases read with inner | rfl
      · exact Uses.words object uses.1 inner generated
      · exact uses.2
  | .index object positions, uses, read, generated => by
      simp only [tokens, words_append, words_mark, words_nil, List.append_nil,
        List.mem_append] at read
      rcases read with inner | inner
      · exact Uses.words object uses.1 inner generated
      · exact UsesEach.words positions uses.2 inner generated
  | .call function arguments, uses, read, generated => by
      simp only [tokens, words_append, words_mark, words_nil, List.append_nil,
        List.mem_append] at read
      rcases read with inner | inner
      · exact Uses.words function uses.1 inner generated
      · exact UsesEach.words arguments uses.2 inner generated
  | .named parameter value, uses, read, generated => by
      rcases List.mem_cons.mp read with rfl | inner
      · exact uses.1
      · exact Uses.words value uses.2 inner generated
  | .sum left right, uses, read, generated | .difference left right, uses, read, generated => by
      simp only [tokens, words_append, words_mark, List.mem_append] at read
      rcases read with inner | inner
      · exact Uses.words left uses.1 inner generated
      · exact Uses.words right uses.2 inner generated
  | .collect item element source, uses, read, generated => by
      have apart : "for" ∉ generatedNames ∧ "in" ∉ generatedNames := by decide
      simp only [tokens, words_append, words_word, words_mark, words_nil, List.append_nil,
        List.mem_append, List.mem_cons, List.not_mem_nil, or_false] at read
      rcases read with (inner | rfl | rfl | rfl) | inner
      · exact Uses.words item uses.1 inner generated
      · exact absurd generated apart.1
      · exact uses.2.1
      · exact absurd generated apart.2
      · exact Uses.words source uses.2.2 inner generated

theorem UsesEach.words : (items : List Expr) → UsesEach word quote items →
    target ∈ Lexer.words ([.mark ','].intercalate (tokensEach items)) →
    target ∈ generatedNames → word target
  | [], _, read, _ => absurd read List.not_mem_nil
  | item :: rest, uses, read, generated => by
      simp only [tokensEach, words_separated, List.flatMap_cons, List.mem_append] at read
      rcases read with inner | inner
      · exact Uses.words item uses.1 inner generated
      · rw [← words_separated] at inner
        exact UsesEach.words rest uses.2 inner generated

end

end Expr

end FigureScript
