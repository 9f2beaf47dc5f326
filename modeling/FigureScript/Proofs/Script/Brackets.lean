import FigureScript.Proofs.Script.Reading

namespace FigureScript

/-! # Brackets

Outside its literals a statement opens and closes its brackets in pairs and uses a few fixed marks.
Where a character of a line goes when the line is read is found here as well: what is no part of a
word, no blank and no quote is kept in a token.
-/

/-- The marks of scripts. No comment and no other literal starts with one of them. -/
def Lexer.marks : List Char := ['(', ')', '[', ']', ',', '.', '=', '+', '-', ':', '*']

/-- A word, a closed text that satisfies `quote`, or one of the marks. -/
def Token.Regular (quote : String → Prop) : Token → Prop
  | .word _ => True
  | .quoted text => quote text
  | .unclosed _ => False
  | .mark character => character ∈ Lexer.marks

namespace Lexer

/-- The brackets open behind a token, the innermost one first. A closing bracket has to answer that
one. -/
def enclose (opened : List Char) : Token → Option (List Char)
  | .mark '(' => some ('(' :: opened)
  | .mark '[' => some ('[' :: opened)
  | .mark ')' => if opened.head? = some '(' then some opened.tail else none
  | .mark ']' => if opened.head? = some '[' then some opened.tail else none
  | _ => some opened

def nesting (opened : List Char) (tokens : List Token) : Option (List Char) :=
  tokens.foldlM enclose opened

/-- Round and square brackets are closed in the reverse order of their opening. -/
def Nested (tokens : List Token) : Prop := nesting [] tokens = some []

instance (tokens : List Token) : Decidable (Nested tokens) :=
  inferInstanceAs (Decidable (_ = _))

/-- Regular tokens that leave open what was open before them. -/
structure Sound (quote : String → Prop) (tokens : List Token) : Prop where
  regular : ∀ token ∈ tokens, token.Regular quote
  nested : ∀ opened, nesting opened tokens = some opened

namespace Sound

variable {quote : String → Prop} {left right : List Token} {character : Char} {text : String}

theorem nil : Sound quote [] := ⟨by simp, fun _ => rfl⟩

theorem append (first : Sound quote left) (second : Sound quote right) :
    Sound quote (left ++ right) where
  regular := List.forall_mem_append.mpr ⟨first.regular, second.regular⟩
  nested opened := by
    have before := first.nested opened
    have after := second.nested opened
    unfold nesting at *
    rw [List.foldlM_append, before]
    exact after

theorem word (text : String) : Sound quote [.word text] := ⟨by simp [Token.Regular], fun _ => rfl⟩

theorem quoted (holds : quote text) : Sound quote [.quoted text] :=
  ⟨by simpa [Token.Regular] using holds, fun _ => rfl⟩

theorem mark (character : Char) (known : character ∈ [',', '.', '=', '+', '-', ':', '*'] := by decide) :
    Sound quote [.mark character] := by
  simp only [List.mem_cons, List.not_mem_nil, or_false] at known
  rcases known with rfl | rfl | rfl | rfl | rfl | rfl | rfl <;>
    exact ⟨by simp [Token.Regular, marks], fun _ => rfl⟩

theorem cons {token : Token} (first : Sound quote [token]) (others : Sound quote left) :
    Sound quote (token :: left) :=
  first.append others

theorem round (inner : Sound quote left) : Sound quote (.mark '(' :: left ++ [.mark ')']) where
  regular := by
    simpa [Token.Regular, marks, or_imp, forall_and] using inner.regular
  nested opened := by
    have inside := inner.nested ('(' :: opened)
    unfold nesting at *
    simp [enclose, inside]

theorem square (inner : Sound quote left) : Sound quote (.mark '[' :: left ++ [.mark ']']) where
  regular := by
    simpa [Token.Regular, marks, or_imp, forall_and] using inner.regular
  nested opened := by
    have inside := inner.nested ('[' :: opened)
    unfold nesting at *
    simp [enclose, inside]

theorem separated {parts : List (List Token)} (each : ∀ part ∈ parts, Sound quote part) :
    Sound quote ([.mark ','].intercalate parts) := by
  induction parts with
  | nil => exact nil
  | cons part rest ih =>
      have first := each part (by simp)
      have others := ih fun other member => each other (by simp [member])
      cases rest with
      | nil => simpa using first
      | cons second rest =>
          rw [List.intercalate_cons_cons]
          exact (first.append (mark ',')).append others

theorem numerals (numerals : ∀ token ∈ left, IsNumeral token) : Sound quote left := by
  induction left with
  | nil => exact nil
  | cons token rest ih =>
      have others := ih fun other member => numerals other (by simp [member])
      refine cons ?_ others
      cases token with
      | word text => exact word text
      | mark character =>
          rcases numerals (.mark character) (by simp) with rfl | rfl
          · exact mark '.'
          · exact mark '-'
      | quoted text => exact absurd (numerals (.quoted text) (by simp)) not_false
      | unclosed text => exact absurd (numerals (.unclosed text) (by simp)) not_false

end Sound

end Lexer

open Lexer

namespace Expr

variable {word quote : String → Prop}

mutual

theorem Uses.sound : (expression : Expr) → expression.Uses word quote →
    Sound quote expression.tokens
  | .name identifier, _ => Sound.word identifier
  | .number value, _ => by
      obtain ⟨spelling, spelled, numerals, _⟩ := spellsNumber_number value
      have read : (Expr.number value).tokens = spelling := (spelled .plain).read
      rw [read]
      exact Sound.numerals numerals
  | .natural value, _ => Sound.word (toString value)
  | .truth value, _ => Sound.word (Literal.truth value)
  | .quoted value, uses => Sound.quoted uses
  | .list items, uses => (Sound.separated (UsesEach.sound items uses)).square
  | .single item, uses => by
      have whole := ((Uses.sound item uses).append (Sound.mark ',')).round
      simpa [tokens] using whole
  | .member object field, uses =>
      (Uses.sound object uses.1).append ((Sound.mark '.').cons (Sound.word field))
  | .index object positions, uses => by
      have whole := (Uses.sound object uses.1).append
        (Sound.separated (UsesEach.sound positions uses.2)).square
      simpa [tokens] using whole
  | .call function arguments, uses => by
      have whole := (Uses.sound function uses.1).append
        (Sound.separated (UsesEach.sound arguments uses.2)).round
      simpa [tokens] using whole
  | .named parameter value, uses =>
      (Sound.word parameter).cons ((Sound.mark '=').cons (Uses.sound value uses.2))
  | .sum left right, uses =>
      (Uses.sound left uses.1).append ((Sound.mark '+').cons (Uses.sound right uses.2))
  | .difference left right, uses =>
      (Uses.sound left uses.1).append ((Sound.mark '-').cons (Uses.sound right uses.2))
  | .collect item element source, uses => by
      have origin := (Sound.word "in").cons (Uses.sound source uses.2.2)
      have loop := (Sound.word "for").cons ((Sound.word element).cons origin)
      have whole := ((Uses.sound item uses.1).append loop).square
      simpa [tokens] using whole

theorem UsesEach.sound : (items : List Expr) → UsesEach word quote items →
    ∀ part ∈ tokensEach items, Sound quote part
  | [], _ => by simp [tokensEach]
  | item :: rest, uses =>
      List.forall_mem_cons.mpr ⟨Uses.sound item uses.1, UsesEach.sound rest uses.2⟩

end

end Expr

/-- Whatever names and texts a statement uses, its brackets come in pairs. -/
theorem Statement.Uses.sound {word quote : String → Prop} {statement : Statement}
    (uses : statement.Uses word quote) : Sound quote statement.tokens := by
  induction statement with
  | importModule module => exact (Sound.word "import").cons (Sound.word module)
  | importAs module name =>
      exact (Sound.word "import").cons ((Sound.word module).cons
        ((Sound.word "as").cons (Sound.word name)))
  | importFrom module item =>
      exact (Sound.word "from").cons ((Sound.word module).cons
        ((Sound.word "import").cons (Sound.word item)))
  | importAll module =>
      exact (Sound.word "from").cons ((Sound.word module).cons
        ((Sound.word "import").cons (Sound.mark '*')))
  | attempt => exact (Sound.word "try").cons (Sound.mark ':')
  | rescue failure name =>
      exact (Sound.word "except").cons ((Sound.word failure).cons
        ((Sound.word "as").cons ((Sound.word name).cons (Sound.mark ':'))))
  | assign targets value =>
      have names : Sound quote ([.mark ','].intercalate (targets.map fun target => [.word target])) :=
        Sound.separated (List.forall_mem_map.mpr fun target _ => Sound.word target)
      exact names.append ((Sound.mark '=').cons (Expr.Uses.sound value uses.2))
  | extend target value =>
      have sum := (Sound.mark '+').cons ((Sound.mark '=').cons (Expr.Uses.sound value uses.2))
      exact (Sound.word target).cons sum
  | evaluate value => exact Expr.Uses.sound value uses
  | nested inner ih => exact ih uses

/-! ## Characters -/

/-- The characters of a token that need not be word characters. -/
def Token.held : Token → List Char
  | .word _ => []
  | .quoted text | .unclosed text => text.toList
  | .mark character => [character]

namespace Lexer

def Mode.held : Mode → List Char
  | .literal _ reversed => reversed
  | .between | .word _ => []

variable {quoting : Quoting} {character : Char}

/-- The characters that reading keeps outside of words. -/
def Kept (character : Char) : Prop :=
  isWordCharacter character = false ∧ character ≠ ' ' ∧ character ≠ '\''

instance (character : Char) : Decidable (Kept character) := inferInstanceAs (Decidable (_ ∧ _))

theorem Kept.start (kept : Kept character) : start character = ([.mark character], .between) := by
  obtain ⟨other, visible, unquoted⟩ := kept
  simp [Lexer.start, other, visible, unquoted]

theorem Kept.step (kept : Kept character) {mode : Mode} {next : Char}
    (present : character ∈ mode.held ∨ character = next) :
    character ∈ (Lexer.step quoting mode next).1.flatMap Token.held ∨
      character ∈ (Lexer.step quoting mode next).2.held := by
  cases mode with
  | between =>
      rcases present with old | rfl
      · exact absurd old List.not_mem_nil
      · simp [Lexer.step, kept.start, Token.held]
  | word reversed =>
      rcases present with old | rfl
      · exact absurd old List.not_mem_nil
      · simp [Lexer.step, kept.1, kept.start, Token.held]
  | literal taken reversed =>
      cases taken with
      | true => rcases present with old | rfl <;> simp_all [Lexer.step, Mode.held]
      | false =>
          by_cases closing : next = '\''
          · rcases present with old | rfl
            · simp_all [Lexer.step, Mode.held, Token.held]
            · exact absurd closing kept.2.2
          · rcases present with old | rfl <;> simp_all [Lexer.step, Mode.held]

theorem Kept.run (kept : Kept character) (quoting : Quoting) (mode : Mode) {characters : List Char}
    (present : character ∈ mode.held ∨ character ∈ characters) :
    character ∈ (Lexer.run quoting mode characters).1.flatMap Token.held ∨
      character ∈ (Lexer.run quoting mode characters).2.held := by
  -- A character moves from the input into the mode, if it is part of a literal, and on to a token.
  induction characters generalizing mode with
  | nil => exact .inr (present.resolve_right List.not_mem_nil)
  | cons next rest ih =>
      simp only [Lexer.run, List.flatMap_append, List.mem_append]
      have moved : character ∈ (Lexer.step quoting mode next).1.flatMap Token.held ∨
          character ∈ (Lexer.step quoting mode next).2.held ∨ character ∈ rest := by
        rcases present with old | member
        · exact (kept.step (.inl old)).imp_right .inl
        · rcases List.mem_cons.mp member with same | later
          · exact (kept.step (.inr same)).imp_right .inl
          · exact .inr (.inr later)
      rcases moved with now | later
      · exact .inl (.inl now)
      · exact (ih _ later).imp_left .inr

/-- A character that is neither part of a word nor a blank nor a quote is found in the tokens. -/
theorem Kept.mem_tokens (kept : Kept character) (quoting : Quoting) {line : String}
    (member : character ∈ line.toList) :
    ∃ token ∈ tokens quoting line, character ∈ token.held := by
  rw [← List.mem_flatMap, tokens, tokensOf, List.flatMap_append, List.mem_append]
  rcases kept.run quoting .between (.inr member) with found | last
  · exact .inl found
  · right
    revert last
    cases (Lexer.run quoting .between line.toList).2 <;> simp [Mode.held, finish, Token.held]

end Lexer

end FigureScript
