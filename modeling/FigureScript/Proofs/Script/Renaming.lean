import FigureScript.Proofs.Script.Vocabulary

namespace FigureScript

/-! # Renaming a variable

The same expression or statement with another name for one variable. Fields, parameters and texts are
not variables and keep their names. Main statement: what does not mention the variable stays as it is.
-/

namespace Expr

mutual

def renamed (old new : String) : Expr → Expr
  | .name identifier => .name (if identifier = old then new else identifier)
  | .number value => .number value
  | .natural value => .natural value
  | .truth value => .truth value
  | .quoted value => .quoted value
  | .list items => .list (renamedEach old new items)
  | .single item => .single (renamed old new item)
  | .member object field => .member (renamed old new object) field
  | .index object positions => .index (renamed old new object) (renamedEach old new positions)
  | .call function arguments => .call (renamed old new function) (renamedEach old new arguments)
  | .named parameter value => .named parameter (renamed old new value)
  | .sum left right => .sum (renamed old new left) (renamed old new right)
  | .difference left right => .difference (renamed old new left) (renamed old new right)
  -- Inside the item the element hides a variable of its name.
  | .collect item element source =>
    .collect (if element = old then item else renamed old new item) element
      (renamed old new source)

def renamedEach (old new : String) : List Expr → List Expr
  | [] => []
  | item :: rest => renamed old new item :: renamedEach old new rest

end

section

variable {old new : String}

theorem renamedEach_eq_map (items : List Expr) :
    renamedEach old new items = items.map (renamed old new) := by
  induction items with
  | nil => rfl
  | cons item rest ih => rw [renamedEach, ih, List.map_cons]

@[simp] theorem renamed_method (object : Expr) (field : String) (items : List Expr) :
    (method object field items).renamed old new =
      method (object.renamed old new) field (items.map (renamed old new)) := by
  simp only [method, renamed, renamedEach_eq_map]

@[simp] theorem renamed_name_self : (name old).renamed old new = name new := by
  rw [renamed, if_pos rfl]

mutual

/-- An expression without the variable stays as it is. -/
theorem renamed_of_uses : (expression : Expr) → (expression.Uses (· ≠ old) fun _ => True) →
    expression.renamed old new = expression
  | .name identifier, uses => by rw [renamed, if_neg uses]
  | .number _, _ | .natural _, _ | .truth _, _ | .quoted _, _ => rfl
  | .list items, uses => by rw [renamed, renamedEach_of_uses items uses]
  | .single item, uses => by rw [renamed, renamed_of_uses item uses]
  | .member object field, uses => by rw [renamed, renamed_of_uses object uses.1]
  | .index object positions, uses => by
    rw [renamed, renamed_of_uses object uses.1, renamedEach_of_uses positions uses.2]
  | .call function arguments, uses => by
    rw [renamed, renamed_of_uses function uses.1, renamedEach_of_uses arguments uses.2]
  | .named parameter value, uses => by rw [renamed, renamed_of_uses value uses.2]
  | .sum left right, uses | .difference left right, uses => by
    rw [renamed, renamed_of_uses left uses.1, renamed_of_uses right uses.2]
  | .collect item element source, uses => by
    rw [renamed, if_neg uses.2.1, renamed_of_uses item uses.1, renamed_of_uses source uses.2.2]

theorem renamedEach_of_uses : (items : List Expr) → UsesEach (· ≠ old) (fun _ => True) items →
    renamedEach old new items = items
  | [], _ => rfl
  | item :: rest, uses => by
    rw [renamedEach, renamed_of_uses item uses.1, renamedEach_of_uses rest uses.2]

end

theorem map_renamed {items : List Expr} (uses : ∀ item ∈ items, item.Uses (· ≠ old) fun _ => True) :
    items.map (renamed old new) = items := by
  rw [← renamedEach_eq_map, renamedEach_of_uses items (usesEach_iff.mpr uses)]

end

end Expr

namespace Statement

variable {old new : String}

/-- Where the variable is assigned, it has the new name as well. -/
def renamed (old new : String) : Statement → Statement
  | .assign targets value =>
    .assign (targets.map fun target => if target = old then new else target)
      (value.renamed old new)
  | .extend target value =>
    .extend (if target = old then new else target) (value.renamed old new)
  | .evaluate value => .evaluate (value.renamed old new)
  | .nested inner => .nested (inner.renamed old new)
  | statement => statement

theorem renamed_of_uses {statement : Statement} (uses : statement.Uses (· ≠ old) fun _ => True) :
    statement.renamed old new = statement := by
  induction statement with
  | assign targets value =>
      have kept : targets.map (fun target => if target = old then new else target) = targets :=
        (List.map_congr_left fun target member => if_neg (uses.1 target member)).trans
          targets.map_id'
      rw [renamed, kept, Expr.renamed_of_uses value uses.2]
  | extend target value => rw [renamed, if_neg uses.1, Expr.renamed_of_uses value uses.2]
  | evaluate value => rw [renamed, Expr.renamed_of_uses value uses]
  | nested inner ih => rw [renamed, ih uses]
  | importModule | importAs | importFrom | importAll | attempt | rescue => rfl

end Statement

end FigureScript
