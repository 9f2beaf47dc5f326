import FigureScript.Proofs.Figure.Isolation
import FigureScript.Proofs.Figure.Labels

namespace FigureScript.Figure

/-! # Legends and what they explain

A legend needs a label that it collects, and a label needs a legend. Every label has one. A legend
without a label is made where nothing but a matrix asks for it.
-/

variable {figure : Figure} {layout : Layout}

/-! ## Positions in a list -/

section

variable {α β : Type} {front back before after : List α} {item : α}

end

/-! ## Legends -/

/-- The statement is one of those that draw the series of a step. Before it stand the earlier
statements of the script, and behind it the later ones of the drawing phase. -/
inductive Placed (figure : Figure) (layout : Layout) :
    Step → List Statement → Statement → List Statement → Prop
  | intro {before after : List Step} {step : Step} {first last : List Statement}
      {statement : Statement} (taken : figure.steps layout = before ++ step :: after)
      (drawn : step.fragment = first ++ statement :: last) :
      Placed figure layout step
        (figure.preamble ++ figure.axesCreation layout ++ before.flatMap Step.statements ++
          (step.setup ++ first))
        statement (last ++ after.flatMap Step.statements)

namespace Placed

variable {step : Step} {earlier later : List Statement} {statement : Statement} {on : Expr}
  {text : String}

theorem split (placed : Placed figure layout step earlier statement later) :
    figure.preamble ++ figure.axesCreation layout ++
        (figure.steps layout).flatMap Step.statements =
      earlier ++ statement :: later := by
  obtain ⟨taken, drawn⟩ := placed
  rw [taken, List.flatMap_append, List.flatMap_cons, Step.statements, drawn]
  simp only [List.append_assoc, List.cons_append]

theorem mem_steps (placed : Placed figure layout step earlier statement later) :
    step ∈ figure.steps layout := by
  obtain ⟨taken, _⟩ := placed
  simp [taken]

theorem mem_fragment (placed : Placed figure layout step earlier statement later) :
    statement ∈ step.fragment := by
  obtain ⟨_, drawn⟩ := placed
  simp [drawn]

/-- The labels of the statement are texts of its series, on the axes of the step. -/
theorem entry (valid : figure.Valid layout)
    (placed : Placed figure layout step earlier statement later)
    (shown : (on, text) ∈ statement.labelledCalls) :
    on = step.axes.expr ∧ text ∈ step.series.entryTexts := by
  have calls := (fragment_of_step valid placed.mem_steps).labelled.calls
  have among : (on, text) ∈ step.fragment.flatMap Statement.labelledCalls :=
    List.mem_flatMap.mpr ⟨statement, placed.mem_fragment, shown⟩
  rw [calls] at among
  obtain ⟨_, own, ⟨⟩⟩ := List.mem_map.mp among
  exact ⟨rfl, own⟩

end Placed

/-! ## Whole scripts -/

end FigureScript.Figure
