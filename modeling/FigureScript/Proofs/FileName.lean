import FigureScript.FileName
import Mathlib.Data.List.Forall2

namespace FigureScript.FileName

/-! # File names of figures and scripts

What a file is called, in terms of the name that was asked for. Main statement: a file name keeps the
characters of the wanted name at their places, ends in the extension, and is its own file name.
-/

variable {name : Option String} {character : Char}

theorem mem_withoutColons {text : String} (member : character ∈ (withoutColons text).toList) :
    character ∈ text.toList ∨ character = '-' := by
  simp only [withoutColons, String.toList_ofList, List.mem_map] at member
  obtain ⟨first, inside, same⟩ := member
  split at same
  · exact .inr same.symm
  · exact .inl (same ▸ inside)

theorem withoutColons_append (left right : String) :
    withoutColons (left ++ right) = withoutColons left ++ withoutColons right := by
  simp [withoutColons]

/-- Nothing comes into a file name but what its figure is called, the default, the extension and the
hyphens for colons. -/
theorem mem_figure (member : character ∈ (figure name).toList) :
    (∃ text ∈ name.toList, character ∈ text.toList) ∨
      character ∈ "plot.pdf".toList ∨ character = '-' := by
  rcases mem_withoutColons member with kept | hyphen
  · split at kept
    · exact .inr (.inl kept)
    · have own : character ∈ (name.getD "").toList ∨ character ∈ figureExtension.toList := by
        split at kept
        · exact .inl kept
        · rwa [String.toList_append, List.mem_append] at kept
      rcases own with own | added
      · cases name with
        | none => simp at own
        | some text => exact .inl ⟨text, by simp, own⟩
      · exact .inr (.inl (List.mem_append_right "plot".toList added))
  · exact .inr (.inr hyphen)

/-- A file name ends in its extension. -/
theorem sanitize_eq_append (text stem : String) {extension : String}
    (plain : withoutColons extension = extension) :
    ∃ front, sanitize text stem extension = front ++ extension := by
  simp only [sanitize]
  split
  · exact ⟨withoutColons stem, by rw [withoutColons_append, plain]⟩
  · split
    · rename_i ends
      obtain ⟨front, split⟩ := List.isSuffixOf_iff_suffix.mp ends
      have whole : text = String.ofList front ++ extension := by
        rw [← String.ofList_toList (s := text), ← split, String.ofList_append,
          String.ofList_toList]
      exact ⟨withoutColons (String.ofList front), by rw [whole, withoutColons_append, plain]⟩
    · exact ⟨withoutColons text, by rw [withoutColons_append, plain]⟩

theorem figure_eq_append (name : Option String) :
    ∃ stem, figure name = stem ++ figureExtension :=
  sanitize_eq_append (name.getD "") figureStem (by decide)

theorem script_eq_append (name : Option String) :
    ∃ stem, script name = stem ++ scriptExtension :=
  sanitize_eq_append (name.getD "") scriptStem (by decide)

/-! ## Names as they come out -/

/-- The texts have the same characters, with hyphens in the places of colons. -/
def Hyphenates (wanted written : String) : Prop :=
  List.Forall₂ (fun before after => after = if before = ':' then '-' else before) wanted.toList
    written.toList

variable {text stem extension : String}

theorem hyphenates_withoutColons (text : String) : Hyphenates text (withoutColons text) := by
  rw [Hyphenates, withoutColons, String.toList_ofList, List.forall₂_map_right_iff]
  exact List.forall₂_same.mpr fun _ _ => rfl

theorem colon_not_mem_withoutColons (text : String) : ':' ∉ (withoutColons text).toList := by
  intro member
  rw [withoutColons, String.toList_ofList, List.mem_map] at member
  obtain ⟨character, _, same⟩ := member
  split at same
  · exact absurd same (by decide)
  · contradiction

theorem withoutColons_of_not_mem (clean : ':' ∉ text.toList) : withoutColons text = text := by
  have kept : ∀ character ∈ text.toList,
      (if character = ':' then '-' else character) = character := by
    intro character member
    refine if_neg ?_
    rintro rfl
    exact clean member
  rw [withoutColons, List.map_congr_left kept, List.map_id', String.ofList_toList]

theorem endsWith_append (front extension : String) :
    endsWith (front ++ extension) extension = true := by
  rw [endsWith, List.isSuffixOf_iff_suffix, String.toList_append]
  exact List.suffix_append front.toList extension.toList

theorem sanitize_empty (plain : ':' ∉ extension.toList) :
    sanitize "" stem extension = withoutColons stem ++ extension := by
  have empty : "".isEmpty = true := rfl
  rw [sanitize, if_pos empty, withoutColons_append, withoutColons_of_not_mem plain]

theorem sanitize_of_ne_empty (named : text ≠ "") (plain : ':' ∉ extension.toList) :
    sanitize text stem extension =
      withoutColons text ++ if endsWith text extension then "" else extension := by
  have filled : ¬ text.isEmpty = true := fun empty => named (String.isEmpty_iff.mp empty)
  rw [sanitize, if_neg filled]
  split
  · rw [String.append_empty]
  · rw [withoutColons_append, withoutColons_of_not_mem plain]

/-- A name without colons that has its extension is a file name already. -/
theorem sanitize_of_clean (named : text ≠ "") (ends : endsWith text extension = true)
    (clean : ':' ∉ text.toList) : sanitize text stem extension = text := by
  have filled : ¬ text.isEmpty = true := fun empty => named (String.isEmpty_iff.mp empty)
  rw [sanitize, if_neg filled, if_pos ends, withoutColons_of_not_mem clean]

theorem sanitize_sanitize (plain : ':' ∉ extension.toList) (text stem : String) :
    sanitize (sanitize text stem extension) stem extension = sanitize text stem extension := by
  by_cases empty : sanitize text stem extension = ""
  · -- Only the empty name has an empty file name, so nothing but its default is asked for again.
    obtain rfl : text = "" := by
      by_contra named
      rw [sanitize_of_ne_empty named plain, String.append_eq_empty_iff] at empty
      have none := (hyphenates_withoutColons text).length_eq
      rw [empty.1, String.toList_empty, List.length_nil, List.length_eq_zero_iff,
        String.toList_eq_nil_iff] at none
      exact named none
    rw [empty, empty]
  · obtain ⟨front, same⟩ := sanitize_eq_append text stem (withoutColons_of_not_mem plain)
    refine sanitize_of_clean empty ?_ (colon_not_mem_withoutColons _)
    rw [same]
    exact endsWith_append front extension

/-- A file name has no colon, ends in the extension and is its own file name. A name that is fit for
use stays as it is; any other keeps its characters at their places, colons apart, and is followed by
the extension if it did not end in it. An empty name stands for the default with the extension. -/
theorem sanitize_normalizes (text stem extension : String) (plain : ':' ∉ extension.toList) :
    ':' ∉ (sanitize text stem extension).toList ∧
    (∃ front, sanitize text stem extension = front ++ extension) ∧
    sanitize (sanitize text stem extension) stem extension = sanitize text stem extension ∧
    (text ≠ "" → endsWith text extension = true → ':' ∉ text.toList →
      sanitize text stem extension = text) ∧
    (text ≠ "" → ∃ front, Hyphenates text front ∧
      sanitize text stem extension =
        front ++ if endsWith text extension then "" else extension) ∧
    (text = "" → ∃ front, Hyphenates stem front ∧
      sanitize text stem extension = front ++ extension) := by
  refine ⟨colon_not_mem_withoutColons _,
    sanitize_eq_append text stem (withoutColons_of_not_mem plain),
    sanitize_sanitize plain text stem, fun named ends clean => sanitize_of_clean named ends clean,
    fun named => ?_, fun unnamed => ?_⟩
  · exact ⟨_, hyphenates_withoutColons text, sanitize_of_ne_empty named plain⟩
  · subst unnamed
    exact ⟨_, hyphenates_withoutColons stem, sanitize_empty plain⟩

/-- The name ends in the beginning of the extension and has a colon in front of it. -/
theorem overlap_normalizes :
    ':' ∉ ".py".toList ∧
    sanitize "12:30.p" "script" ".py" = "12-30.p.py" ∧
    ':' ∉ (sanitize "12:30.p" "script" ".py").toList ∧
    sanitize (sanitize "12:30.p" "script" ".py") "script" ".py" = sanitize "12:30.p" "script" ".py" ∧
    ∃ front, Hyphenates "12:30.p" front ∧ sanitize "12:30.p" "script" ".py" = front ++ ".py" := by
  have plain : ':' ∉ ".py".toList := by decide
  obtain ⟨clean, _, fixed, _, extended, _⟩ := sanitize_normalizes "12:30.p" "script" ".py" plain
  exact ⟨plain, by decide, clean, fixed, extended (by decide)⟩

end FigureScript.FileName
