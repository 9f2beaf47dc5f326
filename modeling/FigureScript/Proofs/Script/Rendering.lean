import FigureScript.Proofs.Script.Lines
import Mathlib.Tactic.TFAE

namespace FigureScript

/-! # From calls to the rendered text

Each call that writes to a script adds one line. Main statement: the rendered text is the lines of
these calls, each ended by a line break, unless there is a single call and its line is empty. That
line is lost, since the text that is still to be ended looks like that of a script without lines.
-/

/-- A call that adds one line to a script. -/
inductive LineCall where
  | line (text : String)
  | indented (text : String)
  deriving DecidableEq

namespace LineCall

/-- The text that is given to the call. -/
def text : LineCall → String
  | .line text => text
  | .indented text => text

/-- The line that the call adds. -/
def added : LineCall → String
  | .line text => text
  | .indented text => "    " ++ text

variable {call : LineCall}

theorem newline_mem_added_iff : '\n' ∈ call.added.toList ↔ '\n' ∈ call.text.toList := by
  cases call with
  | line text => rfl
  | indented text => simp [added, LineCall.text]

theorem newline_not_mem_map_added {calls : List LineCall}
    (unbroken : ∀ call ∈ calls, '\n' ∉ call.text.toList) :
    ∀ line ∈ calls.map added, '\n' ∉ line.toList := by
  intro line member inside
  obtain ⟨call, present, rfl⟩ := List.mem_map.mp member
  exact unbroken call present (newline_mem_added_iff.mp inside)

/-- An indented line is never empty. -/
theorem added_eq_empty_iff : call.added = "" ↔ call = .line "" := by
  cases call with
  | line text => simp [added]
  | indented text => simp [added, String.append_eq_empty_iff]

theorem map_added_eq_singleton_iff {calls : List LineCall} :
    calls.map added = [""] ↔ calls = [.line ""] := by
  simp [List.map_eq_singleton_iff, added_eq_empty_iff]

end LineCall

namespace Script

variable {script : Script} {lines : List String} {calls : List LineCall}

def call (script : Script) : LineCall → Script
  | .line text => script.line text
  | .indented text => script.indented text

/-- The script that the calls write, one after the other. -/
def ofLineCalls (calls : List LineCall) : Script := calls.foldl call empty

theorem lines_call (script : Script) (call : LineCall) :
    (script.call call).lines = script.lines ++ [call.added] := by
  cases call with
  | line text => rfl
  | indented text => rfl

theorem lines_foldl_call (script : Script) (calls : List LineCall) :
    (calls.foldl call script).lines = script.lines ++ calls.map LineCall.added := by
  induction calls generalizing script with
  | nil => simp
  | cons first rest ih =>
      rw [List.foldl_cons, ih, lines_call, List.append_assoc, List.singleton_append,
        List.map_cons]

@[simp] theorem lines_ofLineCalls (calls : List LineCall) :
    (ofLineCalls calls).lines = calls.map LineCall.added :=
  lines_foldl_call empty calls

/-- Every line is ended, also where there is none. -/
theorem render_eq_join (visible : script.lines ≠ [""]) :
    script.render = String.join (script.lines.map (· ++ "\n")) := by
  by_cases absent : script.lines = []
  · rw [render, absent]
    rfl
  · rw [render_of_present absent visible, intercalate_append_empty]

theorem render_of_lone_empty (lone : script.lines = [""]) : script.render = "" := by
  rw [render, lone]
  rfl

theorem count_join_ended (unbroken : ∀ line ∈ lines, '\n' ∉ line.toList) :
    (String.join (lines.map (· ++ "\n"))).toList.count '\n' = lines.length := by
  induction lines with
  | nil => rfl
  | cons line rest ih =>
      obtain ⟨first, others⟩ := List.forall_mem_cons.mp unbroken
      rw [List.map_cons, String.join_cons, String.toList_append, String.toList_append,
        List.count_append, List.count_append, List.count_eq_zero_of_not_mem first, ih others]
      simp [Nat.add_comm]

/-- For calls whose texts have no line break, each of these holds exactly when the calls are not a
single one that adds an empty line: the rendered text is their lines in order, each ended by a line
break; it has as many line breaks as there are calls; it falls at them into the lines of the script,
with nothing behind the last one. -/
theorem render_ends_lines_tfae (unbroken : ∀ call ∈ calls, '\n' ∉ call.text.toList) :
    List.TFAE [calls ≠ [.line ""],
      (ofLineCalls calls).render = String.join (calls.map fun call => call.added ++ "\n"),
      (ofLineCalls calls).render.toList.count '\n' = calls.length,
      ((ofLineCalls calls).render.split '\n').toList.map (·.copy) =
        (ofLineCalls calls).lines ++ [""]] := by
  have whole := LineCall.newline_not_mem_map_added unbroken
  have joined : String.join (calls.map fun call => call.added ++ "\n") =
      String.join ((calls.map LineCall.added).map (· ++ "\n")) := by
    rw [List.map_map]
    rfl
  have lost : calls = [.line ""] → (ofLineCalls calls).render = "" := by
    rintro rfl
    exact render_of_lone_empty rfl
  tfae_have 1 → 2 := by
    intro other
    have visible : (ofLineCalls calls).lines ≠ [""] := by
      rwa [lines_ofLineCalls, ne_eq, LineCall.map_added_eq_singleton_iff]
    rw [render_eq_join visible, lines_ofLineCalls, joined]
  tfae_have 2 → 3 := by
    intro ended
    rw [ended, joined, count_join_ended whole, List.length_map]
  tfae_have 2 → 4 := by
    intro ended
    rw [ended, joined, lines_ofLineCalls, ← intercalate_append_empty]
    exact split_intercalate_append_empty whole
  tfae_have 3 → 1 := by
    intro counted lone
    rw [lost lone, lone] at counted
    exact absurd counted (by decide)
  tfae_have 4 → 1 := by
    intro cut lone
    rw [lost lone, lone] at cut
    simp at cut
  tfae_finish

/-- Empty lines at both ends, and a text that ends in another kind of break. -/
theorem emptyEnds_end_lines :
    (∀ call ∈ [LineCall.line "", .indented "", .line "x\r", .line ""], '\n' ∉ call.text.toList) ∧
      (ofLineCalls [.line "", .indented "", .line "x\r", .line ""]).render =
        "\n    \nx\r\n\n" ∧
      (ofLineCalls [.line "", .indented "", .line "x\r", .line ""]).render.toList.count '\n' = 4 ∧
      ((ofLineCalls [.line "", .indented "", .line "x\r", .line ""]).render.split '\n').toList.map
        (·.copy) = ["", "    ", "x\r", "", ""] := by
  have unbroken : ∀ call ∈ [LineCall.line "", .indented "", .line "x\r", .line ""],
      '\n' ∉ call.text.toList := by decide
  have ended := render_ends_lines_tfae unbroken
  have several : [LineCall.line "", .indented "", .line "x\r", .line ""] ≠ [.line ""] := by decide
  exact ⟨unbroken, (ended.out 0 1).mp several, (ended.out 0 2).mp several,
    (ended.out 0 3).mp several⟩

/-- A single empty line is in the script, and its text has neither the line nor a break. -/
theorem loneEmptyLine_is_lost :
    (∀ call ∈ [LineCall.line ""], '\n' ∉ call.text.toList) ∧
      (ofLineCalls [.line ""]).lines = [""] ∧
      (ofLineCalls [.line ""]).render = "" ∧
      (ofLineCalls [.line ""]).render ≠
        String.join ([LineCall.line ""].map fun call => call.added ++ "\n") ∧
      (ofLineCalls [.line ""]).render.toList.count '\n' ≠ [LineCall.line ""].length := by
  have rendered : (ofLineCalls [.line ""]).render = "" := render_of_lone_empty rfl
  rw [rendered]
  decide

end Script

end FigureScript
