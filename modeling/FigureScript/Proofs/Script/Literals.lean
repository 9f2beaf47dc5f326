import FigureScript.Proofs.Script.Lines

namespace FigureScript.Literal

open Lexer (trailingBackslashes)

/-! # Where a text literal ends

A literal is read from its opening quote on: a backslash takes the next character with it, the first
quote that is not taken closes the literal, and a line break that is not taken ends it in error.
Main statement: a text without quotes and line breaks fills the literal it is written as, unless it
ends with an odd number of backslashes. Those take the closing quote with them.
-/

/-- What stands behind the closing quote of a literal; `taken` tells that a backslash takes the next
character. -/
def behindQuote? (taken : Bool) : List Char → Option (List Char)
  | [] => none
  | character :: rest =>
    if taken then behindQuote? false rest
    else if character = '\'' then some rest
    else if character = '\n' ∨ character = '\r' then none
    else behindQuote? (character == '\\') rest

/-- What stands behind the literal that the characters start with, if they start with one. -/
def behind? : List Char → Option (List Char)
  | '\'' :: rest => behindQuote? false rest
  | _ => none

theorem length_lt_of_behindQuote? {taken : Bool} {characters rest : List Char}
    (closed : behindQuote? taken characters = some rest) : rest.length < characters.length := by
  induction characters generalizing taken with
  | nil => cases closed
  | cons character others ih =>
      simp only [behindQuote?] at closed
      split at closed
      · exact Nat.lt_succ_of_lt (ih closed)
      split at closed
      · cases closed
        exact Nat.lt_succ_self _
      split at closed
      · cases closed
      · exact Nat.lt_succ_of_lt (ih closed)

/-- Reading passes over characters that are neither quotes nor line breaks. Backslashes at their end
take the next character when they are odd in number. -/
theorem behindQuote?_append (reversed rest : List Char) (unquoted : '\'' ∉ reversed)
    (single : ∀ character ∈ reversed, character ≠ '\n' ∧ character ≠ '\r') :
    behindQuote? false (reversed.reverse ++ rest) =
      behindQuote? ((reversed.takeWhile (· == '\\')).length % 2 == 1) rest := by
  induction reversed generalizing rest with
  | nil => rfl
  | cons character others ih =>
      have plain : character ≠ '\'' := fun same => unquoted (same ▸ List.mem_cons_self)
      have unbroken : ¬ (character = '\n' ∨ character = '\r') :=
        not_or.mpr (single character List.mem_cons_self)
      have before := ih (character :: rest) (fun member => unquoted (List.mem_cons_of_mem _ member))
        fun other member => single other (List.mem_cons_of_mem _ member)
      rw [List.reverse_cons, List.append_assoc, List.singleton_append, before]
      rcases Nat.mod_two_eq_zero_or_one (others.takeWhile (· == '\\')).length with even | odd
      · by_cases backslash : character = '\\'
        · simp +decide [behindQuote?, even, backslash, Nat.add_mod]
        · have other : (character == '\\') = false := beq_false_of_ne backslash
          simp [behindQuote?, even, other, plain, unbroken]
      · by_cases backslash : character = '\\'
        · simp [behindQuote?, odd, backslash, Nat.add_mod]
        · simp [behindQuote?, odd, backslash]

/-- A safe text fills its literal exactly when it ends with an even number of backslashes. -/
theorem text_fills_literal_iff {text : String} (safe : isUnsafe text = false) (rest : List Char) :
    behind? ((Literal.text text).toList ++ rest) = some rest ↔
      trailingBackslashes text % 2 = 0 := by
  obtain ⟨unquoted, single⟩ := isUnsafe_eq_false.mp safe
  have characters : (Literal.text text).toList ++ rest =
      '\'' :: (text.toList.reverse.reverse ++ '\'' :: rest) := by
    simp [Literal.text]
  have passed := behindQuote?_append text.toList.reverse ('\'' :: rest) (by simpa using unquoted)
    fun character member => single character (List.mem_reverse.mp member)
  rw [characters, behind?, passed, ← trailingBackslashes]
  rcases Nat.mod_two_eq_zero_or_one (trailingBackslashes text) with even | odd
  · simp [behindQuote?, even]
  · simp only [behindQuote?, odd, BEq.rfl, if_true]
    refine ⟨fun closed => ?_, fun none => absurd none (by decide)⟩
    exact absurd (length_lt_of_behindQuote? closed) (Nat.lt_irrefl _)

/-- Backslashes within a label and a pair of them at its end leave its literal whole. -/
theorem label_fills_literal :
    isUnsafe "$\\mu$ in \\\\" = false ∧
      behind? (Literal.text "$\\mu$ in \\\\").toList = some [] := by
  have safe : isUnsafe "$\\mu$ in \\\\" = false := by decide
  have whole := (text_fills_literal_iff safe []).mpr (by decide)
  rw [List.append_nil] at whole
  exact ⟨safe, whole⟩

/-- A text that is a single backslash is safe, and its literal does not end. -/
theorem backslash_leaves_literal_open :
    isUnsafe "\\" = false ∧ behind? (Literal.text "\\").toList = none := by
  decide

end FigureScript.Literal
