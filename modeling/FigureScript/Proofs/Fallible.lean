/-!
# Traversals that can fail

A list is checked or translated item by item, and the first failure ends it.
-/

namespace FigureScript.Fallible

variable {α β ε : Type}

theorem bind_eq_ok_iff {first : Except ε α} {next : α → Except ε β} {result : β} :
    (first >>= next) = .ok result ↔ ∃ value, first = .ok value ∧ next value = .ok result := by
  cases first <;> simp [bind, Except.bind]

theorem map_eq_ok_iff {first : Except ε α} {change : α → β} {result : β} :
    first.map change = .ok result ↔ ∃ value, first = .ok value ∧ change value = result := by
  cases first <;> simp [Except.map]

theorem then_eq_ok_iff {check : Except ε Unit} {next : Except ε α} {result : α} :
    (check >>= fun _ => next) = .ok result ↔ check = .ok () ∧ next = .ok result := by
  cases check with
  | error error => simp [bind, Except.bind]
  | ok => simp [bind, Except.bind]

theorem then_eq_error_iff {check : Except ε Unit} {next : Except ε α} {error : ε} :
    (check >>= fun _ => next) = .error error ↔
      check = .error error ∨ check = .ok () ∧ next = .error error := by
  cases check with
  | error first => simp [bind, Except.bind]
  | ok => simp [bind, Except.bind]

/-- What is left of a success decides it, where errors cannot be compared. -/
theorem eq_ok_of_toOption {attempt : Except ε α} {result : α}
    (kept : attempt.toOption = some result) : attempt = .ok result := by
  cases attempt with
  | error error => contradiction
  | ok value => exact congrArg Except.ok (Option.some.inj kept)

theorem exists_error_of_toOption {attempt : Except ε α} (lost : attempt.toOption = none) :
    ∃ error, attempt = .error error := by
  cases attempt with
  | error error => exact ⟨error, rfl⟩
  | ok value => contradiction

theorem throw_ne_ok {error : ε} {result : α} : (throw error : Except ε α) ≠ .ok result := by
  simp [throw, throwThe, MonadExceptOf.throw]

/-- Behind a guard that throws, the computation goes on only where the guard does not apply. -/
theorem guard_eq_ok_iff {refused : Prop} [Decidable refused] {error : ε}
    {next : Unit → Except ε α} {result : α} :
    (if refused then throw error >>= next else next ()) = .ok result ↔
      ¬ refused ∧ next () = .ok result := by
  by_cases applies : refused
  · simp [applies, throw, throwThe, MonadExceptOf.throw, bind, Except.bind]
  · simp [applies]

theorem forM_cons (check : α → Except ε Unit) (item : α) (rest : List α) :
    (item :: rest).forM check = (check item >>= fun _ => rest.forM check) := rfl

theorem forM_eq_ok_iff {check : α → Except ε Unit} {items : List α} :
    items.forM check = .ok () ↔ ∀ item ∈ items, check item = .ok () := by
  induction items with
  | nil => simp [List.forM, pure, Except.pure]
  | cons item rest ih => rw [forM_cons, then_eq_ok_iff, ih, List.forall_mem_cons]

/-- The error is that of the first item that fails. -/
theorem forM_eq_error_iff {check : α → Except ε Unit} {items : List α} {error : ε} :
    items.forM check = .error error ↔
      ∃ before bad after, items = before ++ bad :: after ∧
        (∀ item ∈ before, check item = .ok ()) ∧ check bad = .error error := by
  induction items with
  | nil => simp [List.forM, pure, Except.pure]
  | cons item rest ih =>
      rw [forM_cons, then_eq_error_iff, ih]
      constructor
      · rintro (failed | ⟨first, before, bad, after, rfl, passed, failed⟩)
        · exact ⟨[], item, rest, rfl, List.forall_mem_nil _, failed⟩
        · exact ⟨item :: before, bad, after, rfl, List.forall_mem_cons.mpr ⟨first, passed⟩, failed⟩
      · rintro ⟨before, bad, after, split, passed, failed⟩
        cases before with
        | nil =>
            obtain ⟨rfl, _⟩ := List.cons.inj split
            exact .inl failed
        | cons first others =>
            obtain ⟨rfl, rfl⟩ := List.cons.inj split
            obtain ⟨checked, others⟩ := List.forall_mem_cons.mp passed
            exact .inr ⟨checked, _, bad, after, rfl, others, failed⟩

theorem mapM_eq_ok_map {translate : α → Except ε β} {result : α → β} {items : List α}
    (translated : ∀ item ∈ items, translate item = .ok (result item)) :
    items.mapM translate = .ok (items.map result) := by
  induction items with
  | nil => rfl
  | cons item rest ih =>
      have first := translated item (by simp)
      have others := ih fun other member => translated other (by simp [member])
      simp only [List.mapM_cons, first, others, bind, Except.bind, pure, Except.pure, List.map_cons]

/-! ## Attempts that succeed -/

def Succeeds (attempt : Except ε α) : Prop := ∃ result, attempt = .ok result

theorem not_succeeds_iff {attempt : Except ε α} :
    ¬ Succeeds attempt ↔ ∃ error, attempt = .error error := by
  cases attempt <;> simp [Succeeds]

theorem succeeds_map_iff {first : Except ε α} {change : α → β} :
    Succeeds (first.map change) ↔ Succeeds first := by
  cases first <;> simp [Succeeds, Except.map]

theorem succeeds_bind_iff {first : Except ε α} {next : α → Except ε β} {own others : Prop}
    (succeeds : Succeeds first ↔ own) (follow : ∀ value, Succeeds (next value) ↔ others) :
    Succeeds (first >>= next) ↔ own ∧ others := by
  rw [← succeeds]
  cases first with
  | error error => simp [Succeeds, bind, Except.bind]
  | ok value => simpa [Succeeds, bind, Except.bind] using follow value

theorem Succeeds.bind_iff {first : Except ε α} {next : α → Except ε β} {others : Prop}
    (succeeds : Succeeds first) (follow : ∀ value, Succeeds (next value) ↔ others) :
    Succeeds (first >>= next) ↔ others := by
  rw [succeeds_bind_iff (iff_true_intro succeeds) follow, true_and]

theorem succeeds_bind_iff_first {first : Except ε α} {next : α → Except ε β} {own : Prop}
    (succeeds : Succeeds first ↔ own) (follow : ∀ value, Succeeds (next value)) :
    Succeeds (first >>= next) ↔ own := by
  rw [succeeds_bind_iff succeeds fun value => iff_true_intro (follow value), and_true]

theorem Succeeds.bind {first : Except ε α} {next : α → Except ε β} (succeeds : Succeeds first)
    (follow : ∀ value, Succeeds (next value)) : Succeeds (first >>= next) :=
  (succeeds_bind_iff_first Iff.rfl follow).mpr succeeds

end FigureScript.Fallible
