import Mathlib.Data.List.Forall2

/-!
# Data related item by item

What follows for a traversal from what is known of each item.
-/

namespace FigureScript.Related

variable {α β γ ε : Type} {relation : α → β → Prop} {items : List α} {others : List β}

theorem map_eq {left : α → γ} {right : β → γ} (related : List.Forall₂ relation items others)
    (same : ∀ item other, relation item other → left item = right other) :
    items.map left = others.map right := by
  rw [← List.forall₂_eq_eq_eq, List.forall₂_map_left_iff, List.forall₂_map_right_iff]
  exact related.imp same

theorem flatMap_eq {left : α → List γ} {right : β → List γ}
    (related : List.Forall₂ relation items others)
    (same : ∀ item other, relation item other → left item = right other) :
    items.flatMap left = others.flatMap right := by
  rw [List.flatMap_def, List.flatMap_def, map_eq related same]

theorem any_eq {left : α → Bool} {right : β → Bool} (related : List.Forall₂ relation items others)
    (same : ∀ item other, relation item other → left item = right other) :
    items.any left = others.any right := by
  have mapped := congrArg (List.any · id) (map_eq related same)
  simpa only [List.any_map, Function.comp_def, id] using mapped

theorem forM_eq {check : α → Except ε Unit} {second : β → Except ε Unit}
    (related : List.Forall₂ relation items others)
    (same : ∀ item other, relation item other → check item = second other) :
    items.forM check = others.forM second := by
  induction related with
  | nil => rfl
  | @cons item other rest tail first _ ih =>
      have step : (item :: rest).forM check = (check item >>= fun _ => rest.forM check) := rfl
      rw [step, same item other first, ih]
      rfl

/-- Both values are missing, or both are there. -/
theorem option_cases {first : Option α} {second : Option β}
    (related : Option.Rel relation first second) :
    (first = none ∧ second = none) ∨
      ∃ value other, first = some value ∧ second = some other ∧ relation value other := by
  cases related with
  | none => exact .inl ⟨rfl, rfl⟩
  | some pair => exact .inr ⟨_, _, rfl, rfl, pair⟩

theorem option_imp {weaker : α → β → Prop} {first : Option α} {second : Option β}
    (related : Option.Rel relation first second)
    (follows : ∀ value other, relation value other → weaker value other) :
    Option.Rel weaker first second := by
  cases related with
  | none => exact .none
  | some pair => exact .some (follows _ _ pair)

end FigureScript.Related
