import FigureScript.Proofs.Script.Names
import FigureScript.Proofs.Script.Readability

namespace FigureScript

open Lexer

/-! # Lists in a line

The innermost lists of a line with their entries, read off the tokens alone: a list reaches from an
opening bracket to the next closing one, and commas stand between its entries. What lists a text holds
follows from those of its parts.
-/

namespace Lexer

/-- What stands between brackets that enclose no others. `inside` holds the tokens since the last
opening bracket. -/
def bodies (inside : Option (List Token)) : List Token → List (List Token)
  | [] => []
  | token :: rest =>
    if token = .mark '[' then bodies (some []) rest
    else if token = .mark ']' then inside.toList ++ bodies none rest
    else bodies (inside.map (· ++ [token])) rest

def entries (body : List Token) : List (List Token) :=
  if body = [] then [] else body.splitOn (.mark ',')

def lists (tokens : List Token) : List (List (List Token)) := (bodies none tokens).map entries

def Line.lists (line : String) : List (List (List Token)) := Lexer.lists (tokens .plain line)

def IsBracket (token : Token) : Prop := token = .mark '[' ∨ token = .mark ']'

/-- The lists in front of whatever follows. -/
def Holds (tokens : List Token) (found : List (List (List Token))) : Prop :=
  ∀ rest, lists (tokens ++ rest) = found ++ lists rest

theorem bodies_plain {tokens : List Token} (plain : ∀ token ∈ tokens, ¬ IsBracket token)
    (inside : Option (List Token)) (rest : List Token) :
    bodies inside (tokens ++ rest) = bodies (inside.map (· ++ tokens)) rest := by
  induction tokens generalizing inside with
  | nil => cases inside <;> simp
  | cons token others ih =>
      rw [List.forall_mem_cons] at plain
      have first := not_or.mp plain.1
      rw [List.cons_append, bodies, if_neg first.1, if_neg first.2, ih plain.2]
      cases inside <;> simp

theorem mem_separated {token : Token} {parts : List (List Token)}
    (member : token ∈ [.mark ','].intercalate parts) :
    token = .mark ',' ∨ ∃ part ∈ parts, token ∈ part := by
  induction parts with
  | nil => exact absurd member List.not_mem_nil
  | cons part rest ih =>
      cases rest with
      | nil => exact .inr ⟨part, by simp, by simpa using member⟩
      | cons next remaining =>
          rw [List.intercalate_cons_cons, List.mem_append, List.mem_append] at member
          rcases member with (own | comma) | others
          · exact .inr ⟨part, by simp, own⟩
          · exact .inl (List.mem_singleton.mp comma)
          · rcases ih others with comma | ⟨part, inside, own⟩
            · exact .inl comma
            · exact .inr ⟨part, List.mem_cons_of_mem _ inside, own⟩

theorem bodies_opening (inside : Option (List Token)) (rest : List Token) :
    bodies inside (.mark '[' :: rest) = bodies (some []) rest := rfl

theorem bodies_closing (inside : Option (List Token)) (rest : List Token) :
    bodies inside (.mark ']' :: rest) = inside.toList ++ bodies none rest := rfl

namespace Holds

variable {left right : List Token} {first second : List (List (List Token))}

theorem lists_eq (holds : Holds left first) : lists left = first := by
  simpa [lists, bodies] using holds []

theorem nil : Holds [] [] := fun _ => rfl

theorem append (before : Holds left first) (after : Holds right second) :
    Holds (left ++ right) (first ++ second) := by
  intro rest
  rw [List.append_assoc, before, after, List.append_assoc]

theorem plain (plain : ∀ token ∈ left, ¬ IsBracket token) : Holds left [] := by
  intro rest
  rw [lists, bodies_plain plain]
  rfl

theorem cons {token : Token} (holds : Holds left first) (other : ¬ IsBracket token) :
    Holds (token :: left) first :=
  append (plain (List.forall_mem_singleton.mpr other)) holds

theorem separated {α : Type} {tokens : α → List Token} {found : α → List (List (List Token))}
    {items : List α} (each : ∀ item ∈ items, Holds (tokens item) (found item)) :
    Holds ([.mark ','].intercalate (items.map tokens)) (items.flatMap found) := by
  induction items with
  | nil => exact nil
  | cons item others ih =>
      rw [List.forall_mem_cons] at each
      cases others with
      | nil => simpa using each.1
      | cons next remaining =>
          have comma : ¬ IsBracket (.mark ',') := by simp [IsBracket]
          rw [List.map_cons, List.map_cons, List.intercalate_cons_cons, List.append_assoc]
          exact each.1.append ((ih each.2).cons comma)

/-- Entries without brackets and commas are the entries of a list. -/
theorem list {parts : List (List Token)} (present : ∀ part ∈ parts, part ≠ [])
    (plain : ∀ part ∈ parts, ∀ token ∈ part, ¬ IsBracket token ∧ token ≠ .mark ',') :
    Holds (.mark '[' :: [.mark ','].intercalate parts ++ [.mark ']']) [parts] := by
  have inner : ∀ token ∈ [.mark ','].intercalate parts, ¬ IsBracket token := by
    intro token member
    rcases mem_separated member with rfl | ⟨part, inside, own⟩
    · simp [IsBracket]
    · exact (plain part inside token own).1
  have read : entries ([.mark ','].intercalate parts) = parts := by
    cases parts with
    | nil => rfl
    | cons part others =>
        have filled : [.mark ','].intercalate (part :: others) ≠ [] := by
          cases others <;> simp [present part]
        rw [entries, if_neg filled]
        exact List.splitOn_intercalate _ (fun part member comma => (plain part member _ comma).2 rfl)
          (List.cons_ne_nil _ _)
  intro rest
  rw [List.cons_append, List.cons_append, List.append_assoc, List.singleton_append, lists,
    bodies_opening, bodies_plain inner, bodies_closing]
  simp [lists, read]

/-- Lists in a list are found by themselves. -/
theorem nested {inner tail : List Token} (starts : inner = .mark '[' :: tail)
    (holds : Holds inner first) : Holds (.mark '[' :: inner ++ [.mark ']']) first := by
  intro rest
  -- What stands inside begins with a bracket of its own, which takes the place of the outer one.
  have opened : bodies (some []) (inner ++ .mark ']' :: rest) =
      bodies none (inner ++ .mark ']' :: rest) := by
    rw [starts, List.cons_append, bodies_opening, bodies_opening]
  have whole := holds (.mark ']' :: rest)
  simp only [lists, bodies_closing, Option.toList_none, List.nil_append] at whole ⊢
  rw [List.cons_append, List.cons_append, bodies_opening, List.append_assoc, List.singleton_append,
    opened, whole]

end Holds

end Lexer

namespace Expr

/-- The lists in the items, one item after the other. -/
structure EachHolds (items : List Expr) (found : List (List (List Token))) : Prop where
  each : ∀ item ∈ items, Holds item.tokens (lists item.tokens)
  found_eq : items.flatMap (fun item => lists item.tokens) = found

namespace EachHolds

variable {item : Expr} {items others : List Expr} {first second : List (List (List Token))}

theorem nil : EachHolds [] [] := ⟨nofun, rfl⟩

theorem cons (holds : Holds item.tokens first) (rest : EachHolds items second) :
    EachHolds (item :: items) (first ++ second) where
  each := List.forall_mem_cons.mpr ⟨holds.lists_eq.symm ▸ holds, rest.each⟩
  found_eq := by rw [List.flatMap_cons, holds.lists_eq, rest.found_eq]

theorem append (before : EachHolds items first) (after : EachHolds others second) :
    EachHolds (items ++ others) (first ++ second) where
  each := List.forall_mem_append.mpr ⟨before.each, after.each⟩
  found_eq := by rw [List.flatMap_append, before.found_eq, after.found_eq]

/-- Each item is a list by itself. -/
theorem of_lists {α : Type} {expr : α → Expr} {entries : α → List (List Token)} {values : List α}
    (each : ∀ value ∈ values, Holds (expr value).tokens [entries value]) :
    EachHolds (values.map expr) (values.map entries) := by
  induction values with
  | nil => exact nil
  | cons value rest ih =>
      rw [List.forall_mem_cons] at each
      exact cons each.1 (ih each.2)

theorem separated (holds : EachHolds items first) :
    Holds ([.mark ','].intercalate (tokensEach items)) first := by
  rw [tokensEach_eq_map, ← holds.found_eq]
  exact Holds.separated holds.each

end EachHolds

variable {items : List Expr} {found : List (List (List Token))}

theorem holds_arguments (each : EachHolds items found) :
    Holds (.mark '(' :: [.mark ','].intercalate (tokensEach items) ++ [.mark ')']) found := by
  have closing : Holds [.mark ')'] [] := Holds.plain (by simp [IsBracket])
  have inner := each.separated.append closing
  rw [List.append_nil] at inner
  exact inner.cons (by simp [IsBracket])

theorem holds_call (function : String) (each : EachHolds items found) :
    Holds (call (.name function) items).tokens found :=
  (holds_arguments each).cons (by simp [IsBracket])

theorem holds_method (object field : String) (each : EachHolds items found) :
    Holds (method (.name object) field items).tokens found :=
  (((holds_arguments each).cons (by simp [IsBracket])).cons (by simp [IsBracket])).cons
    (by simp [IsBracket])

theorem holds_named {value : Expr} (parameter : String) (holds : Holds value.tokens found) :
    Holds (named parameter value).tokens found :=
  (holds.cons (by simp [IsBracket])).cons (by simp [IsBracket])

theorem holds_name (identifier : String) : Holds (name identifier).tokens [] :=
  Holds.plain (by simp [tokens, IsBracket])

theorem holds_quoted (value : String) : Holds (quoted value).tokens [] :=
  Holds.plain (by simp [tokens, IsBracket])

theorem not_isBracket_of_isNumeral {token : Token} (numeral : IsNumeral token) :
    ¬ IsBracket token ∧ token ≠ .mark ',' := by
  constructor
  · rintro (rfl | rfl) <;> revert numeral <;> decide
  · rintro rfl
    revert numeral
    decide

theorem holds_number (value : Float) : Holds (number value).tokens [] :=
  Holds.plain fun token member => (not_isBracket_of_isNumeral (numerals_number value token member)).1

theorem holds_difference (left right : String) :
    Holds (difference (.name left) (.name right)).tokens [] :=
  Holds.plain (by simp [tokens, IsBracket])

theorem holds_sum (left right : String) : Holds (sum (.name left) (.name right)).tokens [] :=
  Holds.plain (by simp [tokens, IsBracket])

/-- The entries of a list of numbers. -/
def numberEntries (values : List Float) : List (List Token) :=
  values.map fun value => (number value).tokens

/-- The entries of a list of texts. -/
def textEntries (values : List String) : List (List Token) := values.map fun value => [.quoted value]

@[simp] theorem length_numberEntries (values : List Float) :
    (numberEntries values).length = values.length :=
  List.length_map _

@[simp] theorem length_textEntries (values : List String) :
    (textEntries values).length = values.length :=
  List.length_map _

theorem holds_numbers (values : List Float) :
    Holds (numbers values).tokens [numberEntries values] := by
  have parts : tokensEach (values.map number) = numberEntries values := by
    rw [tokensEach_eq_map, List.map_map]
    rfl
  rw [numbers, tokens, parts]
  refine Holds.list (List.forall_mem_map.mpr fun value _ => number_tokens_ne_nil value) ?_
  exact List.forall_mem_map.mpr fun value _ token member =>
    not_isBracket_of_isNumeral (numerals_number value token member)

theorem holds_quotedList (values : List String) :
    Holds (quotedList values).tokens [textEntries values] := by
  have parts : tokensEach (values.map quoted) = textEntries values := by
    rw [tokensEach_eq_map, List.map_map]
    rfl
  rw [quotedList, tokens, parts]
  refine Holds.list (List.forall_mem_map.mpr fun value _ => List.cons_ne_nil _ _) ?_
  exact List.forall_mem_map.mpr fun value _ => by simp [IsBracket]

theorem holds_numberRows {rows : List (List Float)} (present : rows ≠ []) :
    Holds (numberRows rows).tokens (rows.map numberEntries) := by
  have inner := (EachHolds.of_lists fun row (_ : row ∈ rows) => holds_numbers row).separated
  obtain ⟨first, others, rfl⟩ := List.exists_cons_of_ne_nil present
  exact Holds.nested (separated_cons (numbers first) (others.map numbers)) inner

example : (Line.lists "x = array([[1, -2.5], [3, 4]])").map List.length = [2, 2] := by
  decide

end Expr

/-- The lists in the lines of some statements. -/
def listsOf (statements : List Statement) : List (List (List Token)) :=
  statements.flatMap fun statement => lists statement.tokens

section

variable {statement : Statement} {statements others : List Statement}
  {first second : List (List (List Token))}

theorem listsOf_cons (holds : Holds statement.tokens first) (rest : listsOf statements = second) :
    listsOf (statement :: statements) = first ++ second := by
  rw [listsOf, List.flatMap_cons, holds.lists_eq]
  exact congrArg (first ++ ·) rest

theorem listsOf_single (holds : Holds statement.tokens first) : listsOf [statement] = first := by
  rw [listsOf, List.flatMap_singleton, holds.lists_eq]

theorem listsOf_append (before : listsOf statements = first) (after : listsOf others = second) :
    listsOf (statements ++ others) = first ++ second := by
  rw [listsOf, List.flatMap_append]
  exact congrArg₂ (· ++ ·) before after

theorem flatMap_lists_text (legible : ∀ statement ∈ statements, statement.Legible .plain) :
    (statements.map Statement.text).flatMap Line.lists = listsOf statements := by
  rw [List.flatMap_map, listsOf, List.flatMap_def, List.flatMap_def]
  refine congrArg List.flatten (List.map_congr_left fun statement member => ?_)
  rw [Line.lists, Statement.tokens_text (legible statement member)]

end

end FigureScript
