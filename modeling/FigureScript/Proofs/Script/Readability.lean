import FigureScript.Proofs.Number.Reading
import FigureScript.Proofs.Script.Reading

namespace FigureScript

open Lexer Binary64

/-! # Unique readability

Different expressions are written differently. This is shown for the forms in which series are drawn:
calls of functions and of methods of a name, with names, numbers, texts and lists for arguments. Main
statements: the tokens of such an expression tell the expression and where it ends, and the line of
such a statement tells the statement.
-/

namespace Lexer

instance : DecidablePred IsNumeral
  | .word text =>
    decidable_of_iff (text = "nan" ∨ text = "inf" ∨ text.toList.head?.any Char.isDigit = true) <| by
      cases characters : text.toList <;> simp [IsNumeral, characters]
  | .mark character => inferInstanceAs (Decidable (character = '.' ∨ character = '-'))
  | .quoted _ | .unclosed _ => isFalse not_false

/-- Behind an expression its line ends, or the expression around it goes on. -/
def Follows (rest : List Token) : Prop :=
  ∀ token ∈ rest.head?, token = .mark ',' ∨ token = .mark ')' ∨ token = .mark ']'

/-- How an expression begins. -/
inductive Opening where
  | name
  | number
  | quoted
  | list
  | call
  | method
  | named
  | sum
  | difference
  deriving DecidableEq, Repr

def Opening.ofMark (character : Char) : Opening :=
  if character = '(' then .call
  else if character = '.' then .method
  else if character = '=' then .named
  else if character = '+' then .sum
  else if character = '-' then .difference
  else .name

def opening? : List Token → Option Opening
  | [] => none
  | first :: rest =>
    if IsNumeral first then some .number
    else
      match first, rest with
      | .quoted _, _ => some .quoted
      | .word _, .mark character :: _ => some (.ofMark character)
      | .word _, _ => some .name
      | .mark character, _ => if character = '[' then some .list else none
      | .unclosed _, _ => none

/-- A prefix of numerals ends with the first token that is none. -/
theorem numerals_append_inj {left right first second : List Token}
    (numerals : ∀ token ∈ left, IsNumeral token) (others : ∀ token ∈ right, IsNumeral token)
    (follows : Follows first) (following : Follows second)
    (same : left ++ first = right ++ second) : left = right ∧ first = second := by
  have stops : ∀ {rest : List Token}, Follows rest → ∀ token ∈ rest.head?, ¬ IsNumeral token := by
    intro rest follows token member
    rcases follows token member with rfl | rfl | rfl <;> decide
  induction left generalizing right with
  | nil =>
      cases right with
      | nil => exact ⟨rfl, same⟩
      | cons token rest =>
          rw [List.nil_append] at same
          exact absurd (others token (by simp)) (stops follows token (by simp [same]))
  | cons token rest ih =>
      cases right with
      | nil =>
          rw [List.nil_append] at same
          exact absurd (numerals token (by simp)) (stops following token (by simp [← same]))
      | cons other remaining =>
          obtain ⟨rfl, rests⟩ := List.cons.inj same
          obtain ⟨rfl, ends⟩ := ih (fun token member => numerals token (by simp [member]))
            (fun token member => others token (by simp [member])) rests
          exact ⟨rfl, ends⟩

end Lexer

namespace Expr

variable {expression other : Expr} {first second : List Token}

def IsName (text : String) : Prop := ¬ IsNumeral (.word text)

instance (text : String) : Decidable (IsName text) := inferInstanceAs (Decidable (¬ _))

/-- The forms in which series are drawn. -/
inductive Simple : Expr → Prop
  | name {identifier : String} (isName : IsName identifier) : Simple (.name identifier)
  | number {value : Float} (isNumber : IsNumber value) : Simple (.number value)
  | quoted (value : String) : Simple (.quoted value)
  | list {items : List Expr} (each : ∀ item ∈ items, Simple item) : Simple (.list items)
  | call {function : String} {arguments : List Expr} (isName : IsName function)
      (each : ∀ item ∈ arguments, Simple item) : Simple (.call (.name function) arguments)
  | method {object field : String} {arguments : List Expr} (isName : IsName object)
      (each : ∀ item ∈ arguments, Simple item) :
      Simple (.call (.member (.name object) field) arguments)
  | named {parameter : String} {value : Expr} (isName : IsName parameter) (simple : Simple value) :
      Simple (.named parameter value)
  | sum {left right : String} (isName : IsName left) : Simple (.sum (.name left) (.name right))
  | difference {left right : String} (isName : IsName left) :
      Simple (.difference (.name left) (.name right))

theorem numerals_number (value : Float) : ∀ token ∈ (number value).tokens, IsNumeral token := by
  obtain ⟨read, spelled, numerals, _⟩ := spellsNumber_number value
  rw [tokens, Lexer.tokens, (spelled .plain).read]
  exact numerals

/-- The tokens of a number hold all its characters. -/
theorem characters_number (value : Float) :
    (number value).tokens.flatMap Token.characters = (Literal.number value).toList := by
  obtain ⟨read, spelled, _, whole⟩ := spellsNumber_number value
  rw [tokens, Lexer.tokens, (spelled .plain).read]
  exact whole

theorem number_tokens_inj {value next : Float} (isNumber : IsNumber value)
    (nextNumber : IsNumber next) (same : (number value).tokens = (number next).tokens) :
    value = next := by
  refine Number.number_inj isNumber nextNumber (String.toList_inj.mp ?_)
  rw [← characters_number, same, characters_number]

theorem number_tokens_ne_nil (value : Float) : (number value).tokens ≠ [] := by
  intro empty
  have characters := characters_number value
  rw [empty, List.flatMap_nil] at characters
  exact Number.number_ne_empty value (String.toList_eq_nil_iff.mp characters.symm)

def opening : Expr → Opening
  | .number _ => .number
  | .quoted _ => .quoted
  | .list _ => .list
  | .call (.member _ _) _ => .method
  | .call _ _ => .call
  | .named _ _ => .named
  | .sum _ _ => .sum
  | .difference _ _ => .difference
  | _ => .name

theorem opening?_word {text : String} {character : Char} (isName : IsName text)
    (rest : List Token) :
    opening? (.word text :: .mark character :: rest) = some (.ofMark character) :=
  if_neg isName

theorem Simple.opening?_eq (simple : Simple expression) (follows : Follows first) :
    opening? (expression.tokens ++ first) = some expression.opening := by
  cases simple with
  | name isName =>
      cases first with
      | nil => exact if_neg isName
      | cons token rest =>
          rcases follows token rfl with rfl | rfl | rfl <;> exact opening?_word isName rest
  | @number value isNumber =>
      cases read : (Expr.number value).tokens with
      | nil => exact absurd read (number_tokens_ne_nil value)
      | cons token rest =>
          exact if_pos (numerals_number value token (by simp [read]))
  | quoted value => rfl
  | list each => rfl
  | call isName each => exact opening?_word isName _
  | method isName each => exact opening?_word isName _
  | named isName simple => exact opening?_word isName _
  | sum isName => exact opening?_word isName _
  | difference isName => exact opening?_word isName _

/-- What the tokens of the expression are followed by does not matter for reading it. -/
def Readable (expression : Expr) : Prop :=
  ∀ {other : Expr} {first second : List Token}, Simple other → Follows first → Follows second →
    expression.tokens ++ first = other.tokens ++ second → expression = other ∧ first = second

/-- The tokens of all items but the first, with the commas in front of them. -/
def following (items : List Expr) : List Token :=
  items.flatMap fun item => .mark ',' :: item.tokens

theorem following_nil : following [] = [] := rfl

theorem following_cons (item : Expr) (rest : List Expr) :
    following (item :: rest) = .mark ',' :: (item.tokens ++ following rest) := rfl

theorem separated_cons (item : Expr) (rest : List Expr) :
    [.mark ','].intercalate (tokensEach (item :: rest)) = item.tokens ++ following rest := by
  induction rest generalizing item with
  | nil => simp [tokensEach, following]
  | cons next rest ih =>
      have later := ih next
      simp only [tokensEach, following, List.flatMap_cons] at later ⊢
      rw [List.intercalate_cons_cons, later]
      simp

variable {items others : List Expr} {closing : Char}

theorem follows_following (closes : closing = ')' ∨ closing = ']') (items : List Expr)
    (rest : List Token) : Follows (following items ++ .mark closing :: rest) := by
  intro token member
  cases items with
  | nil =>
      obtain rfl : .mark closing = token := by simpa [following] using member
      rcases closes with rfl | rfl
      · exact .inr (.inl rfl)
      · exact .inr (.inr rfl)
  | cons item rest =>
      obtain rfl : .mark ',' = token := by simpa [following] using member
      exact .inl rfl

theorem following_inj (closes : closing = ')' ∨ closing = ']')
    (readable : ∀ item ∈ items, Readable item) (simple : ∀ item ∈ others, Simple item)
    (same : following items ++ .mark closing :: first =
      following others ++ .mark closing :: second) : items = others ∧ first = second := by
  have comma : closing ≠ ',' := by rcases closes with rfl | rfl <;> decide
  induction items generalizing others with
  | nil =>
      cases others with
      | nil => exact ⟨rfl, by simpa [following] using same⟩
      | cons next remaining =>
          rw [following_cons, following_nil] at same
          exact absurd (Token.mark.inj (List.cons.inj same).1) comma
  | cons item rest ih =>
      cases others with
      | nil =>
          rw [following_cons, following_nil] at same
          exact absurd (Token.mark.inj (List.cons.inj same).1).symm comma
      | cons next remaining =>
          have tails : item.tokens ++ (following rest ++ .mark closing :: first) =
              next.tokens ++ (following remaining ++ .mark closing :: second) := by
            simpa [following] using same
          obtain ⟨rfl, rests⟩ := readable item (by simp) (simple next (by simp))
            (follows_following closes rest first) (follows_following closes remaining second) tails
          obtain ⟨rfl, ends⟩ := ih (fun item member => readable item (by simp [member]))
            (fun item member => simple item (by simp [member])) rests
          exact ⟨rfl, ends⟩

theorem Simple.ne_closing (closes : closing = ')' ∨ closing = ']') (simple : Simple expression)
    (follows : Follows first) : expression.tokens ++ first ≠ .mark closing :: second := by
  intro same
  have opened := simple.opening?_eq follows
  rw [same] at opened
  rcases closes with rfl | rfl <;> cases opened

/-- Items between commas are read up to the closing bracket. -/
theorem separated_inj (closes : closing = ')' ∨ closing = ']')
    (readable : ∀ item ∈ items, Simple item ∧ Readable item)
    (simple : ∀ item ∈ others, Simple item)
    (same : [.mark ','].intercalate (tokensEach items) ++ .mark closing :: first =
      [.mark ','].intercalate (tokensEach others) ++ .mark closing :: second) :
    items = others ∧ first = second := by
  cases items with
  | nil =>
      cases others with
      | nil => exact ⟨rfl, by simpa [tokensEach] using same⟩
      | cons next remaining =>
          rw [separated_cons, List.append_assoc] at same
          exact absurd same.symm ((simple next (by simp)).ne_closing closes
            (follows_following closes remaining second))
  | cons item rest =>
      cases others with
      | nil =>
          rw [separated_cons, List.append_assoc] at same
          exact absurd same ((readable item (by simp)).1.ne_closing closes
            (follows_following closes rest first))
      | cons next remaining =>
          rw [separated_cons, separated_cons, List.append_assoc, List.append_assoc] at same
          obtain ⟨rfl, rests⟩ := (readable item (by simp)).2 (simple next (by simp))
            (follows_following closes rest first) (follows_following closes remaining second) same
          obtain ⟨rfl, ends⟩ := following_inj closes
            (fun item member => (readable item (by simp [member])).2)
            (fun item member => simple item (by simp [member])) rests
          exact ⟨rfl, ends⟩

/-- Only expressions that begin alike have to be compared. -/
theorem Readable.of_opening (simple : Simple expression)
    (reads : ∀ {other : Expr} {first second : List Token}, Simple other →
      expression.opening = other.opening → Follows first → Follows second →
      expression.tokens ++ first = other.tokens ++ second → expression = other ∧ first = second) :
    Readable expression := by
  intro other first second others follows ends same
  have opened := simple.opening?_eq follows
  rw [same, others.opening?_eq ends] at opened
  exact reads others (Option.some.inj opened).symm follows ends same

/-- The tokens of a simple expression tell the expression and where it ends. -/
theorem Simple.readable (simple : Simple expression) : Readable expression := by
  -- The opening leaves one kind of expression; below, readable parts make a readable whole.
  induction simple with
  | name isName =>
      refine Readable.of_opening (.name isName) fun others opened follows ends same => ?_
      cases others with
      | name => simpa [tokens] using same
      | _ => simp [opening] at opened
  | @number value isNumber =>
      refine Readable.of_opening (.number isNumber) fun others opened follows ends same => ?_
      cases others with
      | @number next nextNumber =>
          obtain ⟨parts, rests⟩ := numerals_append_inj (numerals_number value)
            (numerals_number next) follows ends same
          exact ⟨congrArg Expr.number (number_tokens_inj isNumber nextNumber parts), rests⟩
      | _ => simp [opening] at opened
  | quoted value =>
      refine Readable.of_opening (.quoted value) fun others opened follows ends same => ?_
      cases others with
      | quoted => simpa [tokens] using same
      | _ => simp [opening] at opened
  | list each ih =>
      refine Readable.of_opening (.list each) fun others opened follows ends same => ?_
      cases others with
      | list simple =>
          simp only [tokens, List.cons_append, List.append_assoc, List.cons.injEq, true_and] at same
          obtain ⟨rfl, rests⟩ := separated_inj (.inr rfl)
            (fun item member => ⟨each item member, ih item member⟩) simple same
          exact ⟨rfl, rests⟩
      | _ => simp [opening] at opened
  | call isName each ih =>
      refine Readable.of_opening (.call isName each) fun others opened follows ends same => ?_
      cases others with
      | call _ simple =>
          simp only [tokens, List.cons_append, List.append_assoc, List.cons.injEq,
            List.nil_append, Token.word.injEq, true_and] at same
          obtain ⟨rfl, arguments⟩ := same
          obtain ⟨rfl, rests⟩ := separated_inj (.inl rfl)
            (fun item member => ⟨each item member, ih item member⟩) simple arguments
          exact ⟨rfl, rests⟩
      | _ => simp [opening] at opened
  | method isName each ih =>
      refine Readable.of_opening (.method isName each) fun others opened follows ends same => ?_
      cases others with
      | method _ simple =>
          simp only [tokens, List.cons_append, List.append_assoc, List.cons.injEq,
            List.nil_append, Token.word.injEq, true_and] at same
          obtain ⟨rfl, rfl, arguments⟩ := same
          obtain ⟨rfl, rests⟩ := separated_inj (.inl rfl)
            (fun item member => ⟨each item member, ih item member⟩) simple arguments
          exact ⟨rfl, rests⟩
      | _ => simp [opening] at opened
  | named isName value ih =>
      refine Readable.of_opening (.named isName value) fun others opened follows ends same => ?_
      cases others with
      | named _ simple =>
          simp only [tokens, List.cons_append, List.cons.injEq, Token.word.injEq, true_and] at same
          obtain ⟨rfl, values⟩ := same
          obtain ⟨rfl, rests⟩ := ih simple follows ends values
          exact ⟨rfl, rests⟩
      | _ => simp [opening] at opened
  | sum isName =>
      refine Readable.of_opening (.sum isName) fun others opened follows ends same => ?_
      cases others with
      | sum => simpa [tokens, and_assoc] using same
      | _ => simp [opening] at opened
  | difference isName =>
      refine Readable.of_opening (.difference isName) fun others opened follows ends same => ?_
      cases others with
      | difference => simpa [tokens, and_assoc] using same
      | _ => simp [opening] at opened

theorem Simple.tokens_inj (simple : Simple expression) (others : Simple other)
    (same : expression.tokens = other.tokens) : expression = other :=
  (simple.readable others (by simp [Follows]) (by simp [Follows]) (congrArg (· ++ []) same)).1

end Expr

namespace Statement

variable {statement other : Statement}

/-- The statements that draw series. -/
inductive Simple : Statement → Prop
  | assign (target : String) {value : Expr} (simple : value.Simple) :
      Simple (.assign [target] value)
  | extend (target : String) {value : Expr} (simple : value.Simple) :
      Simple (.extend target value)
  | call {function : String} {arguments : List Expr}
      (simple : (Expr.call (.name function) arguments).Simple) :
      Simple (.evaluate (.call (.name function) arguments))
  | method {object field : String} {arguments : List Expr}
      (simple : (Expr.call (.member (.name object) field) arguments).Simple) :
      Simple (.evaluate (.call (.member (.name object) field) arguments))
  | importFrom (module item : String) : Simple (.importFrom module item)

/-- The second token tells the kind of statement. -/
theorem Simple.tokens_inj (simple : Simple statement) (others : Simple other)
    (same : statement.tokens = other.tokens) : statement = other := by
  cases simple with
  | @assign target value simple =>
      cases others with
      | @assign next assigned others =>
          obtain ⟨rfl, values⟩ : target = next ∧ value.tokens = assigned.tokens := by
            simpa [tokens] using same
          rw [simple.tokens_inj others values]
      | _ => simp [tokens, Expr.tokens] at same
  | @extend target value simple =>
      cases others with
      | @extend next added others =>
          obtain ⟨rfl, values⟩ : target = next ∧ value.tokens = added.tokens := by
            simpa [tokens] using same
          rw [simple.tokens_inj others values]
      | _ => simp [tokens, Expr.tokens] at same
  | call simple =>
      cases others with
      | call others => rw [simple.tokens_inj others same]
      | _ => simp [tokens, Expr.tokens] at same
  | method simple =>
      cases others with
      | method others => rw [simple.tokens_inj others same]
      | _ => simp [tokens, Expr.tokens] at same
  | importFrom module item =>
      cases others with
      | importFrom => simpa [tokens] using same
      | _ => simp [tokens, Expr.tokens] at same

/-- A statement that its line tells. -/
structure Readable (statement : Statement) : Prop where
  simple : statement.Simple
  legible : statement.Legible .plain

theorem Readable.text_inj (readable : statement.Readable) (others : other.Readable)
    (same : statement.text = other.text) : statement = other := by
  refine readable.simple.tokens_inj others.simple ?_
  rw [← tokens_text readable.legible, same, tokens_text others.legible]

/-- The lines tell the statements. -/
theorem map_text_inj {statements others : List Statement}
    (readable : ∀ statement ∈ statements, statement.Readable)
    (otherReadable : ∀ statement ∈ others, statement.Readable)
    (same : statements.map text = others.map text) : statements = others := by
  induction statements generalizing others with
  | nil => exact (List.map_eq_nil_iff.mp same.symm).symm
  | cons statement rest ih =>
      obtain ⟨next, remaining, rfl, text, lines⟩ := List.map_eq_cons_iff.mp same.symm
      rw [List.forall_mem_cons] at readable otherReadable
      rw [readable.1.text_inj otherReadable.1 text.symm,
        ih readable.2 otherReadable.2 lines.symm]

end Statement

end FigureScript
