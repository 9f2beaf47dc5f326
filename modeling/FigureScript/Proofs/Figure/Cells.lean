import FigureScript.Figure.Legends

namespace FigureScript.Figure

/-! # The cells that a figure uses -/

variable {seen : List Cell} {series : List Series} {cell : Cell}

theorem mem_distinctCells :
    cell ∈ distinctCells seen series ↔ cell ∉ seen ∧ ∃ one ∈ series, one.cell = cell := by
  induction series generalizing seen with
  | nil => simp [distinctCells]
  | cons one rest ih =>
      by_cases known : one.cell ∈ seen
      · rw [distinctCells, if_pos known, ih]
        constructor
        · rintro ⟨fresh, other, member, same⟩
          exact ⟨fresh, other, by simp [member], same⟩
        · rintro ⟨fresh, other, member, same⟩
          rcases List.mem_cons.mp member with rfl | member
          · exact absurd (same ▸ known) fresh
          · exact ⟨fresh, other, member, same⟩
      · rw [distinctCells, if_neg known, List.mem_cons, ih]
        constructor
        · rintro (rfl | ⟨fresh, other, member, same⟩)
          · exact ⟨known, one, by simp, rfl⟩
          · exact ⟨fun old => fresh (by simp [old]), other, by simp [member], same⟩
        · rintro ⟨fresh, other, member, same⟩
          by_cases first : cell = one.cell
          · exact .inl first
          · rcases List.mem_cons.mp member with rfl | member
            · exact absurd same.symm first
            · exact .inr ⟨by simp [first, fresh], other, member, same⟩

/-- Of the cells seen before only the set matters. -/
theorem distinctCells_congr {others : List Cell}
    (same : ∀ cell, cell ∈ seen ↔ cell ∈ others) :
    distinctCells seen series = distinctCells others series := by
  induction series generalizing seen others with
  | nil => rfl
  | cons one rest ih =>
      have later : ∀ cell, cell ∈ one.cell :: seen ↔ cell ∈ one.cell :: others := by simp [same]
      by_cases known : one.cell ∈ seen
      · rw [distinctCells, distinctCells, if_pos known, if_pos ((same _).mp known), ih same]
      · rw [distinctCells, distinctCells, if_neg known, if_neg (known ∘ (same _).mpr), ih later]

theorem nodup_distinctCells : (distinctCells seen series).Nodup := by
  induction series generalizing seen with
  | nil => simp [distinctCells]
  | cons one rest ih =>
      by_cases known : one.cell ∈ seen
      · rw [distinctCells, if_pos known]
        exact ih
      · rw [distinctCells, if_neg known, List.nodup_cons]
        refine ⟨fun member => ?_, ih⟩
        exact (mem_distinctCells.mp member).1 (by simp)

end FigureScript.Figure
