import FigureScript.Log
import FigureScript.Script.Buffer

/-!
# Writing into a script

A script grows statement by statement while a series is drawn, and events are reported on the way.
What was written stays, also where a failure follows.
-/

namespace FigureScript

/-- A script under construction, with the events reported so far. -/
structure Draft where
  script : Script
  events : List Event := []
  deriving DecidableEq, Repr

abbrev Writing (α : Type) := ExceptT SeriesError (StateM Draft) α

namespace Draft

def append (draft : Draft) (statements : List Statement) : Draft :=
  { draft with script := draft.script.append statements }

def report (draft : Draft) (events : List Event) : Draft :=
  { draft with events := draft.events ++ events }

@[simp] theorem script_append (draft : Draft) (statements : List Statement) :
    (draft.append statements).script = draft.script.append statements := rfl

@[simp] theorem events_append (draft : Draft) (statements : List Statement) :
    (draft.append statements).events = draft.events := rfl

@[simp] theorem script_report (draft : Draft) (events : List Event) :
    (draft.report events).script = draft.script := rfl

@[simp] theorem events_report (draft : Draft) (events : List Event) :
    (draft.report events).events = draft.events ++ events := rfl

@[simp] theorem append_nil (draft : Draft) : draft.append [] = draft := by
  simp [append, Script.append]

@[simp] theorem append_append (draft : Draft) (first rest : List Statement) :
    (draft.append first).append rest = draft.append (first ++ rest) := by
  simp [append, Script.append]

theorem append_report (draft : Draft) (statements : List Statement) (events : List Event) :
    (draft.report events).append statements = (draft.append statements).report events := rfl

@[simp] theorem report_nil (draft : Draft) : draft.report [] = draft := by
  simp [report]

end Draft

namespace Writing

variable {α : Type}

def line (statement : Statement) : Writing Unit := modify fun draft => draft.append [statement]

def lines (statements : List Statement) : Writing Unit := statements.forM line

def report (event : Event) : Writing Unit := modify fun draft => draft.report [event]

/-- The result of a check; a failed one ends the writing. -/
def lift (result : Except SeriesError α) : Writing α :=
  match result with
  | .ok value => pure value
  | .error error => throw error

end Writing

end FigureScript
