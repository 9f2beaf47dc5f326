import FigureScript.Proofs.Script.Vocabulary

namespace FigureScript

/-! # The calls of a script

All calls in a statement, in the order in which they are written. Every call is made by a name, so a
part of a script whose names are known calls nothing else.
-/

structure Call where
  function : Expr
  arguments : List Expr

namespace Call

/-- The last name of what is called. -/
def name (call : Call) : String :=
  match call.function with
  | .name identifier => identifier
  | .member _ field => field
  | _ => ""

@[simp] theorem name_function (function : String) (items : List Expr) :
    name ⟨.name function, items⟩ = function := rfl

@[simp] theorem name_method (object : Expr) (field : String) (items : List Expr) :
    name ⟨.member object field, items⟩ = field := rfl

end Call

namespace Expr

mutual

/-- The calls in an expression, an outer one before those in its arguments. -/
def calls : Expr → List Call
  | .name _ | .number _ | .natural _ | .truth _ | .quoted _ => []
  | .list items => callsEach items
  | .single item => calls item
  | .member object _ => calls object
  | .index object positions => calls object ++ callsEach positions
  | .call function arguments => ⟨function, arguments⟩ :: (calls function ++ callsEach arguments)
  | .named _ value => calls value
  | .sum left right | .difference left right => calls left ++ calls right
  | .collect item _ source => calls item ++ calls source

def callsEach : List Expr → List Call
  | [] => []
  | item :: rest => calls item ++ callsEach rest

end

theorem callsEach_eq_flatMap (items : List Expr) : callsEach items = items.flatMap calls := by
  induction items with
  | nil => rfl
  | cons item rest ih => simp only [callsEach, ih, List.flatMap_cons]

attribute [simp] calls callsEach_eq_flatMap

@[simp] theorem calls_method (object : Expr) (field : String) (items : List Expr) :
    (method object field items).calls =
      ⟨.member object field, items⟩ :: (object.calls ++ items.flatMap calls) := by
  simp [method]

@[simp] theorem calls_numbers (values : List Float) : (numbers values).calls = [] := by
  simp [numbers, List.flatMap_map]

@[simp] theorem calls_quotedList (values : List String) : (quotedList values).calls = [] := by
  simp [quotedList, List.flatMap_map]

@[simp] theorem calls_numberRows (rows : List (List Float)) : (numberRows rows).calls = [] := by
  simp [numberRows, List.flatMap_map]

section

variable {word quote : String → Prop} {call : Call}

/-- A call is made by one of the names of what is called, if by a name at all. -/
theorem Uses.of_call {function : Expr} {items : List Expr} (uses : function.Uses word quote)
    (named : Call.name ⟨function, items⟩ ≠ "") : word (Call.name ⟨function, items⟩) := by
  cases function with
  | name identifier => exact uses
  | member object field => exact uses.2
  | _ => contradiction

mutual

theorem Uses.of_calls : (expression : Expr) → expression.Uses word quote →
    call ∈ expression.calls → call.name ≠ "" → word call.name
  | .name _, _, inside, _ | .number _, _, inside, _ | .natural _, _, inside, _
  | .truth _, _, inside, _ | .quoted _, _, inside, _ => absurd inside List.not_mem_nil
  | .list items, uses, inside, present => UsesEach.of_calls items uses inside present
  | .single item, uses, inside, present => Uses.of_calls item uses inside present
  | .member object _, uses, inside, present => Uses.of_calls object uses.1 inside present
  | .index object positions, uses, inside, present => by
      rcases List.mem_append.mp inside with inner | inner
      · exact Uses.of_calls object uses.1 inner present
      · exact UsesEach.of_calls positions uses.2 inner present
  | .call function arguments, uses, inside, present => by
      rcases List.mem_cons.mp inside with rfl | inner
      · exact uses.1.of_call present
      · rcases List.mem_append.mp inner with inner | inner
        · exact Uses.of_calls function uses.1 inner present
        · exact UsesEach.of_calls arguments uses.2 inner present
  | .named _ value, uses, inside, present => Uses.of_calls value uses.2 inside present
  | .sum left right, uses, inside, present | .difference left right, uses, inside, present => by
      rcases List.mem_append.mp inside with inner | inner
      · exact Uses.of_calls left uses.1 inner present
      · exact Uses.of_calls right uses.2 inner present
  | .collect item _ source, uses, inside, present => by
      rcases List.mem_append.mp inside with inner | inner
      · exact Uses.of_calls item uses.1 inner present
      · exact Uses.of_calls source uses.2.2 inner present

theorem UsesEach.of_calls : (items : List Expr) → UsesEach word quote items →
    call ∈ callsEach items → call.name ≠ "" → word call.name
  | [], _, inside, _ => absurd inside List.not_mem_nil
  | item :: rest, uses, inside, present => by
      rcases List.mem_append.mp inside with inner | inner
      · exact Uses.of_calls item uses.1 inner present
      · exact UsesEach.of_calls rest uses.2 inner present

end

end

end Expr

namespace Statement

def calls : Statement → List Call
  | .assign _ value | .extend _ value | .evaluate value => value.calls
  | .nested inner => inner.calls
  | .importModule _ | .importAs .. | .importFrom .. | .importAll _ | .attempt | .rescue .. => []

def invokes (name : String) (statement : Statement) : Bool :=
  statement.calls.any fun call => call.name == name

theorem Uses.of_calls {word quote : String → Prop} {statement : Statement} {call : Call}
    (uses : statement.Uses word quote) (member : call ∈ statement.calls)
    (named : call.name ≠ "") : word call.name := by
  induction statement with
  | assign targets value => exact Expr.Uses.of_calls value uses.2 member named
  | extend target value => exact Expr.Uses.of_calls value uses.2 member named
  | evaluate value => exact Expr.Uses.of_calls value uses member named
  | nested inner ih => exact ih uses member
  | importModule | importAs | importFrom | importAll | attempt | rescue => contradiction

end Statement

namespace Confined

variable {names : List String} {quote : String → Prop} {statements : List Statement}

theorem invokes_eq_false {name : String} (confined : Confined names quote statements)
    (absent : name ∉ "" :: names) {statement : Statement} (member : statement ∈ statements) :
    statement.invokes name = false := by
  rw [List.mem_cons, not_or] at absent
  cases invoked : statement.invokes name with
  | false => rfl
  | true =>
      obtain ⟨call, inside, same⟩ := List.any_eq_true.mp invoked
      cases eq_of_beq same
      exact absurd ((confined statement member).of_calls inside absent.1) absent.2

theorem filter_invokes (confined : Confined names quote statements) (name : String)
    (absent : name ∉ "" :: names) :
    statements.filter (Statement.invokes name) = [] := by
  rw [List.filter_eq_nil_iff]
  intro statement member
  simp [confined.invokes_eq_false absent member]

end Confined

end FigureScript
