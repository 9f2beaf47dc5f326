import FigureScript.Proofs.Script.Calls

namespace FigureScript

/-! # The phases of a script

What a statement calls decides which phase it belongs to; for titles, ticks and limits the layout
decides with it. Statements that are put together phase by phase are in order, and each phase can be
read off them again.
-/

inductive Phase where
  | opening
  | creation
  | drawing
  | legends
  | settings
  | saving
  | showing
  deriving DecidableEq, Repr

namespace Phase

def all : List Phase := [opening, creation, drawing, legends, settings, saving, showing]

def position : Phase → Nat
  | opening => 0
  | creation => 1
  | drawing => 2
  | legends => 3
  | settings => 4
  | saving => 5
  | showing => 6

/-- The phase that a call shows by its name, if it is not a call that draws. In a grid the settings
of axes belong to the drawing of their cells. -/
def ofName? (isGrid : Bool) : String → Option Phase
  | "simplefilter" | "set" | "set_context" | "cycle" => some opening
  | "subplots" | "twinx" | "set_size_inches" => some creation
  | "legend" | "get_label" => some legends
  | "suptitle" | "text" | "set_xlabel" | "set_ylabel" => some settings
  | "set_title" | "tick_params" | "set_xlim" | "set_ylim" => if isGrid then none else some settings
  | "savefig" => some saving
  | "show" => some showing
  | _ => none

def ofCalls (isGrid : Bool) (calls : List Call) : Phase :=
  (calls.findSome? fun call => ofName? isGrid call.name).getD drawing

end Phase

namespace Statement

/-- Imports with the block around them, and the list of what is drawn while it is empty. A Hinton
diagram imports its functions where it is drawn, by an import that names them. -/
def opens : Statement → Bool
  | .importModule _ | .importAs .. | .importAll _ | .attempt | .rescue .. | .nested _ => true
  | .assign targets _ => targets == ["lines"]
  | .importFrom .. | .extend .. | .evaluate _ => false

@[simp] theorem opens_assign (targets : List String) (value : Expr) :
    (assign targets value).opens = (targets == ["lines"]) := rfl

@[simp] theorem opens_importFrom (module item : String) : (importFrom module item).opens = false :=
  rfl

@[simp] theorem opens_extend (target : String) (value : Expr) :
    (extend target value).opens = false := rfl

@[simp] theorem opens_evaluate (value : Expr) : (evaluate value).opens = false := rfl

def phase (isGrid : Bool) (statement : Statement) : Phase :=
  if statement.opens then .opening else Phase.ofCalls isGrid statement.calls

end Statement

namespace Phase

variable {phase other : Phase} {isGrid : Bool} {left right statements : List Statement}

/-- The statements of a phase, in their order. -/
def part (phase : Phase) (isGrid : Bool) (statements : List Statement) : List Statement :=
  statements.filter fun statement => statement.phase isGrid = phase

/-- All statements belong to the phase. -/
def Owns (phase : Phase) (isGrid : Bool) (statements : List Statement) : Prop :=
  ∀ statement ∈ statements, statement.phase isGrid = phase

@[simp] theorem owns_nil : phase.Owns isGrid [] := by
  intro statement member
  contradiction

@[simp] theorem owns_cons_iff {statement : Statement} :
    phase.Owns isGrid (statement :: left) ↔
      statement.phase isGrid = phase ∧ phase.Owns isGrid left := by
  simp only [Owns, List.forall_mem_cons]

@[simp] theorem owns_append_iff :
    phase.Owns isGrid (left ++ right) ↔ phase.Owns isGrid left ∧ phase.Owns isGrid right := by
  simp only [Owns, List.mem_append, or_imp, forall_and]

theorem owns_single {statement : Statement} (known : statement.phase isGrid = phase) :
    phase.Owns isGrid [statement] :=
  owns_cons_iff.mpr ⟨known, owns_nil⟩

theorem ofCalls_cons {call : Call} {calls : List Call}
    (known : ofName? isGrid call.name = some phase) : ofCalls isGrid (call :: calls) = phase := by
  rw [ofCalls, List.findSome?_cons, known]
  rfl

theorem phase_method {object : Expr} {method : String} {arguments : List Expr}
    (known : ofName? isGrid method = some phase) :
    (Statement.evaluate (.method object method arguments)).phase isGrid = phase :=
  ofCalls_cons known

/-- What calls nothing that shows another phase is drawing. -/
theorem drawing_owns {names : List String} {quote : String → Prop}
    (confined : Confined names quote statements)
    (unopened : ∀ statement ∈ statements, statement.opens = false)
    (others : ∀ name ∈ "" :: names, ofName? isGrid name = none) :
    drawing.Owns isGrid statements := by
  intro statement member
  have calls : ∀ call ∈ statement.calls, ofName? isGrid call.name = none := by
    intro call inside
    by_cases unnamed : call.name = ""
    · rw [unnamed]
      exact others "" (by simp)
    · have known := (confined statement member).of_calls inside unnamed
      exact others call.name (List.mem_cons_of_mem _ known)
  rw [Statement.phase, unopened statement member, ofCalls, List.findSome?_eq_none_iff.mpr calls]
  rfl

theorem part_of_owns (owns : phase.Owns isGrid statements) :
    phase.part isGrid statements = statements :=
  List.filter_eq_self.mpr fun statement member => decide_eq_true (owns statement member)

theorem part_of_other (owns : other.Owns isGrid statements) (distinct : other ≠ phase) :
    phase.part isGrid statements = [] := by
  refine List.filter_eq_nil_iff.mpr fun statement member => ?_
  rw [owns statement member]
  simpa using distinct

/-- Statements that are put together phase by phase fall apart into the same parts. -/
theorem part_flatMap {parts : Phase → List Statement}
    (owns : ∀ phase, Owns phase isGrid (parts phase)) (phase : Phase) :
    phase.part isGrid (all.flatMap parts) = parts phase := by
  have each : ∀ other, phase.part isGrid (parts other) =
      if other = phase then parts other else [] := by
    intro other
    by_cases same : other = phase
    · rw [if_pos same, ← same, part_of_owns (owns other)]
    · rw [if_neg same, part_of_other (owns other) same]
  have split : phase.part isGrid (all.flatMap parts) =
      all.flatMap fun other => phase.part isGrid (parts other) := List.filter_flatMap
  simp only [split, each]
  cases phase <;> simp [all]

theorem pairwise_flatMap {parts : Phase → List Statement}
    (owns : ∀ phase, Owns phase isGrid (parts phase)) :
    (all.flatMap parts).Pairwise fun earlier later =>
      (earlier.phase isGrid).position ≤ (later.phase isGrid).position := by
  rw [List.pairwise_flatMap]
  constructor
  · intro phase _
    refine List.pairwise_of_forall_mem_list fun earlier before later behind => ?_
    have same : earlier.phase isGrid = later.phase isGrid :=
      (owns phase earlier before).trans (owns phase later behind).symm
    exact Nat.le_of_eq (congrArg position same)
  · have ascending : all.Pairwise fun first second => first.position ≤ second.position := by decide
    refine ascending.imp ?_
    intro first second least earlier before later behind
    rwa [owns first earlier before, owns second later behind]

end Phase

end FigureScript
