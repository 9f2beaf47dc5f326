import FigureScript.Script.Syntax

namespace FigureScript

/-! # The vocabulary of a script

Which names stand in a statement and which texts it puts between quotes, wherever in it they are.
`Confined` bounds both for a part of a script; what such a part reads, calls or quotes follows from
that alone.
-/

namespace Expr

mutual

/-- Every name in the expression satisfies `word`, every text between quotes satisfies `quote`. -/
def Uses (word quote : String → Prop) : Expr → Prop
  | .name identifier => word identifier
  | .number _ | .natural _ | .truth _ => True
  | .quoted value => quote value
  | .list items => UsesEach word quote items
  | .single item => Uses word quote item
  | .member object field => Uses word quote object ∧ word field
  | .index object positions => Uses word quote object ∧ UsesEach word quote positions
  | .call function arguments => Uses word quote function ∧ UsesEach word quote arguments
  | .named parameter value => word parameter ∧ Uses word quote value
  | .sum left right | .difference left right => Uses word quote left ∧ Uses word quote right
  | .collect item element source =>
    Uses word quote item ∧ word element ∧ Uses word quote source

def UsesEach (word quote : String → Prop) : List Expr → Prop
  | [] => True
  | item :: rest => Uses word quote item ∧ UsesEach word quote rest

end

section

variable {word quote word' quote' : String → Prop}

attribute [simp] Uses

@[simp] theorem usesEach_iff {items : List Expr} :
    UsesEach word quote items ↔ ∀ item ∈ items, item.Uses word quote := by
  induction items with
  | nil => simp [UsesEach]
  | cons item rest ih => simp [UsesEach, ih]

@[simp] theorem uses_method {object : Expr} {field : String} {items : List Expr} :
    (method object field items).Uses word quote ↔
      (object.Uses word quote ∧ word field) ∧ ∀ item ∈ items, item.Uses word quote := by
  simp [method]

@[simp] theorem uses_numbers {values : List Float} : (numbers values).Uses word quote := by
  simp [numbers]

@[simp] theorem uses_numberRows {rows : List (List Float)} :
    (numberRows rows).Uses word quote := by
  simp [numberRows]

@[simp] theorem uses_quotedList {values : List String} :
    (quotedList values).Uses word quote ↔ ∀ value ∈ values, quote value := by
  simp [quotedList]

mutual

theorem Uses.mono (words : ∀ name, word name → word' name)
    (quotes : ∀ text, quote text → quote' text) :
    (expression : Expr) → expression.Uses word quote → expression.Uses word' quote'
  | .name identifier, uses => words identifier uses
  | .number _, _ | .natural _, _ | .truth _, _ => trivial
  | .quoted value, uses => quotes value uses
  | .list items, uses => UsesEach.mono words quotes items uses
  | .single item, uses => Uses.mono words quotes item uses
  | .member object field, uses => ⟨Uses.mono words quotes object uses.1, words field uses.2⟩
  | .index object positions, uses =>
    ⟨Uses.mono words quotes object uses.1, UsesEach.mono words quotes positions uses.2⟩
  | .call function arguments, uses =>
    ⟨Uses.mono words quotes function uses.1, UsesEach.mono words quotes arguments uses.2⟩
  | .named parameter value, uses => ⟨words parameter uses.1, Uses.mono words quotes value uses.2⟩
  | .sum left right, uses | .difference left right, uses =>
    ⟨Uses.mono words quotes left uses.1, Uses.mono words quotes right uses.2⟩
  | .collect item element source, uses =>
    ⟨Uses.mono words quotes item uses.1, words element uses.2.1,
      Uses.mono words quotes source uses.2.2⟩

theorem UsesEach.mono (words : ∀ name, word name → word' name)
    (quotes : ∀ text, quote text → quote' text) :
    (items : List Expr) → UsesEach word quote items → UsesEach word' quote' items
  | [], _ => trivial
  | item :: rest, uses =>
    ⟨Uses.mono words quotes item uses.1, UsesEach.mono words quotes rest uses.2⟩

end

end

end Expr

/-- The same for a statement; the names that it binds count among its names. -/
@[simp] def Statement.Uses (word quote : String → Prop) : Statement → Prop
  | .importModule module | .importAll module => word module
  | .importAs module name => word module ∧ word name
  | .importFrom module item => word module ∧ word item
  | .attempt => True
  | .rescue failure name => word failure ∧ word name
  | .assign targets value => (∀ target ∈ targets, word target) ∧ value.Uses word quote
  | .extend target value => word target ∧ value.Uses word quote
  | .evaluate value => value.Uses word quote
  | .nested inner => inner.Uses word quote

theorem Statement.Uses.mono {word quote word' quote' : String → Prop} {statement : Statement}
    (uses : statement.Uses word quote) (words : ∀ name, word name → word' name)
    (quotes : ∀ text, quote text → quote' text) : statement.Uses word' quote' := by
  induction statement with
  | importModule module => exact words _ uses
  | importAll module => exact words _ uses
  | importAs module name => exact ⟨words _ uses.1, words _ uses.2⟩
  | importFrom module item => exact ⟨words _ uses.1, words _ uses.2⟩
  | attempt => trivial
  | rescue failure name => exact ⟨words _ uses.1, words _ uses.2⟩
  | assign targets value =>
      exact ⟨fun target member => words _ (uses.1 target member),
        Expr.Uses.mono words quotes value uses.2⟩
  | extend target value => exact ⟨words _ uses.1, Expr.Uses.mono words quotes value uses.2⟩
  | evaluate value => exact Expr.Uses.mono words quotes value uses
  | nested inner ih => exact ih uses

/-- All names in the statements are among `names`, and all their texts satisfy `quote`. -/
def Confined (names : List String) (quote : String → Prop) (statements : List Statement) : Prop :=
  ∀ statement ∈ statements, statement.Uses (· ∈ names) quote

namespace Confined

variable {names others : List String} {quote : String → Prop} {left right : List Statement}

/-- Of the names nothing matters but that they are the given ones. -/
theorem intro (uses : ∀ word : String → Prop, (∀ name ∈ names, word name) →
    ∀ statement ∈ left, statement.Uses word quote) : Confined names quote left :=
  uses _ fun _ member => member

@[simp] theorem nil : Confined names quote [] := by
  intro statement member
  contradiction

@[simp] theorem cons_iff {statement : Statement} :
    Confined names quote (statement :: left) ↔
      statement.Uses (· ∈ names) quote ∧ Confined names quote left := by
  simp only [Confined, List.mem_cons, or_imp, forall_and, forall_eq]

@[simp] theorem append_iff :
    Confined names quote (left ++ right) ↔
      Confined names quote left ∧ Confined names quote right := by
  simp only [Confined, List.mem_append, or_imp, forall_and]

theorem mono (confined : Confined names quote left)
    (more : names ⊆ others) : Confined others quote left :=
  fun statement member =>
    (confined statement member).mono (fun _ word => more word) fun _ same => same

theorem flatMap {α : Type} {part : α → List Statement} {items : List α}
    (each : ∀ item ∈ items, Confined names quote (part item)) :
    Confined names quote (items.flatMap part) := by
  intro statement member
  obtain ⟨item, inside, within⟩ := List.mem_flatMap.mp member
  exact each item inside statement within

end Confined

end FigureScript
