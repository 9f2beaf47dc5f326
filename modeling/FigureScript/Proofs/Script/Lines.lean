import FigureScript.Script.Buffer
import FigureScript.Proofs.Script.Brackets

namespace FigureScript

open Lexer

/-! # The lines of a script

A statement whose texts have no line break is one line, and cutting a script at its line breaks gives
its statements back.
-/

/-- The text has no character that ends a line. -/
def OneLine (text : String) : Prop :=
  ∀ character ∈ text.toList, character ≠ '\n' ∧ character ≠ '\r'

instance (text : String) : Decidable (OneLine text) := List.decidableBAll _ _

theorem Literal.isUnsafe_eq_false {text : String} :
    Literal.isUnsafe text = false ↔ '\'' ∉ text.toList ∧ OneLine text := by
  simp only [Literal.isUnsafe, List.any_eq_false, Bool.or_eq_true, beq_iff_eq, not_or, OneLine]
  constructor
  · intro safe
    refine ⟨fun quote => (safe _ quote).1.1 rfl, fun character member => ?_⟩
    exact ⟨(safe character member).1.2, (safe character member).2⟩
  · rintro ⟨unquoted, single⟩ character member
    have apart : character ≠ '\'' := fun same => unquoted (same ▸ member)
    exact ⟨⟨apart, (single character member).1⟩, (single character member).2⟩

theorem Lexer.Harmless.oneLine {text : String} (harmless : Harmless text) : OneLine text :=
  fun character member => (harmless character member).2.2

/-- What a line needs so that it can be read by itself. -/
structure WellFormed (line : String) : Prop where
  physical : OneLine line
  closed : ∀ text, .unclosed text ∉ tokens .escaping line
  /-- Outside of literals there is nothing that could begin a comment or another kind of literal. -/
  known : ∀ character, .mark character ∈ tokens .escaping line → character ∈ marks
  nested : Nested (tokens .escaping line)

namespace Statement

variable {statement : Statement} {quoting : Quoting}

/-- Line breaks come into a statement with its texts only. -/
theorem oneLine_text (uses : statement.Uses IsWord fun text => Fills quoting text ∧ OneLine text) :
    OneLine statement.text := by
  have legible : statement.Legible quoting := uses.mono (fun _ word => word) fun _ both => both.1
  have absent : ∀ character, Kept character → character ∉ marks →
      (∀ text, OneLine text → character ∉ text.toList) → character ∉ statement.text.toList := by
    intro character kept other unbroken member
    obtain ⟨token, read, held⟩ := kept.mem_tokens quoting member
    rw [tokens_text legible] at read
    have regular := uses.sound.regular token read
    cases token with
    | word text => exact absurd held List.not_mem_nil
    | quoted text => exact unbroken text regular.2 held
    | unclosed text => exact regular
    | mark mark => exact other (List.mem_singleton.mp held ▸ regular)
  intro character member
  constructor
  · rintro rfl
    exact absent '\n' (by decide) (by decide) (fun _ single inside => (single _ inside).1 rfl) member
  · rintro rfl
    exact absent '\r' (by decide) (by decide) (fun _ single inside => (single _ inside).2 rfl) member

theorem wellFormed_text
    (uses : statement.Uses IsWord fun text => Fills .escaping text ∧ OneLine text) :
    WellFormed statement.text := by
  have legible : statement.Legible .escaping := uses.mono (fun _ word => word) fun _ both => both.1
  have read : Lexer.tokens .escaping statement.text = statement.tokens := tokens_text legible
  refine ⟨oneLine_text uses, ?closed, ?known, ?nested⟩
  case closed =>
    intro text member
    exact uses.sound.regular _ (read ▸ member)
  case known =>
    intro character member
    exact uses.sound.regular _ (read ▸ member)
  case nested =>
    rw [Nested, read]
    exact uses.sound.nested []

end Statement

namespace Script

variable {script : Script}

/-- Joined lines are empty only where there is no line break between them. -/
theorem joined_eq_empty_iff {lines : List String} :
    "\n".intercalate lines = "" ↔ lines = [] ∨ lines = [""] := by
  rcases lines with _ | ⟨first, _ | ⟨second, rest⟩⟩
  · simp
  · simp
  · simp [String.intercalate_cons_cons, String.append_eq_empty_iff]

theorem render_of_present (present : script.lines ≠ []) (visible : script.lines ≠ [""]) :
    script.render = "\n".intercalate (script.lines ++ [""]) := by
  have joined : ¬ ("\n".intercalate script.lines).isEmpty = true := by
    rw [String.isEmpty_iff, joined_eq_empty_iff, not_or]
    exact ⟨present, visible⟩
  rw [render, if_neg joined, String.intercalate_append_of_ne_nil present (by simp)]
  simp

/-- An empty line behind the last one lets the joined text end every line with a line break. -/
theorem intercalate_append_empty (lines : List String) :
    "\n".intercalate (lines ++ [""]) = String.join (lines.map (· ++ "\n")) := by
  induction lines with
  | nil => rfl
  | cons line rest ih =>
      rw [List.cons_append, String.intercalate_cons_of_ne_nil (by simp), ih, List.map_cons,
        String.join_cons, String.append_assoc]

theorem split_intercalate_append_empty {lines : List String}
    (unbroken : ∀ line ∈ lines, '\n' ∉ line.toList) :
    (("\n".intercalate (lines ++ [""])).split '\n').toList.map (·.copy) = lines ++ [""] := by
  have all : ∀ line ∈ lines ++ [""], '\n' ∉ line.toList := by
    simpa [or_imp, forall_and] using unbroken
  have cut := String.toList_split_intercalate all
  rwa [if_neg (by simp)] at cut

/-- Cutting a script at its line breaks gives its lines, and nothing behind the last one. -/
theorem split_render (present : script.lines ≠ []) (visible : script.lines ≠ [""])
    (unbroken : ∀ line ∈ script.lines, '\n' ∉ line.toList) :
    (script.render.split '\n').toList.map (·.copy) = script.lines ++ [""] := by
  rw [render_of_present present visible]
  exact split_intercalate_append_empty unbroken

theorem getLast_render (present : script.lines ≠ []) (visible : script.lines ≠ [""]) :
    script.render.toList.getLast? = some '\n' := by
  rw [render_of_present present visible, String.intercalate_append_of_ne_nil present (by simp)]
  simp

theorem render_ne_empty (present : script.lines ≠ []) (visible : script.lines ≠ [""]) :
    script.render ≠ "" := by
  intro empty
  have last := getLast_render present visible
  rw [empty] at last
  simp at last

end Script

end FigureScript
