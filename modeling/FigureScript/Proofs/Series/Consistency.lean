import FigureScript.Proofs.Fallible
import FigureScript.Series.Basic

namespace FigureScript

/-! # Consistent data

What the lists of a series have to satisfy, kind by kind, said without the order of the checks. Main
statement: a series passes its check exactly when its data are consistent.
-/

namespace Given

variable {α : Type} {values : Option (List α)} {items : List α}

theorem list_eq_some_iff : list values = some items ↔ values = some items ∧ items ≠ [] := by
  simp [list, Option.filter_eq_some_iff]

/-- A list without an item counts as none. -/
theorem list_eq_none_iff : list values = none ↔ values.getD [] = [] := by
  cases values <;> simp [list]

theorem list_getD (values : Option (List α)) : (list values).getD [] = values.getD [] := by
  cases given : list values with
  | none => exact (list_eq_none_iff.mp given).symm
  | some items => rw [(list_eq_some_iff.mp given).1]

end Given

/-- There is a list of values, and two lists are equally long. -/
def Trace.Consistent (trace : Trace) : Prop :=
  (trace.x.getD [] ≠ [] ∨ trace.y.getD [] ≠ []) ∧
    (trace.x.getD [] ≠ [] → trace.y.getD [] ≠ [] →
      (trace.x.getD []).length = (trace.y.getD []).length)

/-- There are heights, and every list that is set belongs to them one by one. -/
def Bars.Consistent (bars : Bars) : Prop :=
  bars.values.getD [] ≠ [] ∧
    (∀ positions, bars.categories = some (.numeric positions) →
      positions.length = (bars.values.getD []).length) ∧
    (∀ names, bars.categories = some (.labels names) →
      names.length = (bars.values.getD []).length) ∧
    ∀ errors, bars.errors = some errors → errors.length = (bars.values.getD []).length

/-- There are independent values, as many dependent ones if any, and as many errors. -/
def Band.Consistent (band : Band) : Prop :=
  band.x.getD [] ≠ [] ∧
    (band.y.getD [] ≠ [] → (band.y.getD []).length = (band.x.getD []).length) ∧
    ∃ errors, band.errors = some errors ∧ errors.length = (band.x.getD []).length

/-- There are rows, and they are equally long and not empty. -/
def Matrix.Consistent (matrix : Matrix) : Prop :=
  matrix.values ≠ [] ∧ ∃ columns, 0 < columns ∧ ∀ row ∈ matrix.values, row.length = columns

def Series.Consistent : Series → Prop
  | line trace | scatter trace => trace.Consistent
  | bar bars => bars.Consistent
  | errorBand band => band.Consistent
  | matrix values => values.Consistent

theorem Trace.check_eq_ok_iff {trace : Trace} : trace.check = .ok () ↔ trace.Consistent := by
  rw [Consistent, ← Given.list_getD trace.x, ← Given.list_getD trace.y]
  unfold check points
  rcases x : Given.list trace.x with _ | xs <;> rcases y : Given.list trace.y with _ | ys
  · simp [Except.map]
  · simp [Except.map, (Given.list_eq_some_iff.mp y).2]
  · simp [Except.map, (Given.list_eq_some_iff.mp x).2]
  · by_cases equal : xs.length = ys.length <;>
      simp [Except.map, equal, (Given.list_eq_some_iff.mp x).2, (Given.list_eq_some_iff.mp y).2]

theorem Bars.checkEntries_eq_ok_iff {list : BarList} {entries values : Nat} :
    checkEntries list entries values = .ok () ↔ entries = values := by
  unfold checkEntries
  split <;> simp [*]

theorem Bars.check_eq_ok_iff {bars : Bars} : bars.check = .ok () ↔ bars.Consistent := by
  rw [Consistent, ← Given.list_getD]
  unfold check heights
  rcases values : Given.list bars.values with _ | heights
  · simp [bind, Except.bind]
  · have present := (Given.list_eq_some_iff.mp values).2
    rw [Fallible.bind_eq_ok_iff]
    simp only [Except.ok.injEq, exists_eq_left', Option.getD_some, present, ne_eq,
      not_false_eq_true, true_and]
    rcases bars.categories with _ | ⟨positions | names⟩ <;> rcases bars.errors with _ | errors <;>
      simp [Fallible.then_eq_ok_iff, checkEntries_eq_ok_iff]

theorem Band.check_eq_ok_iff {band : Band} : band.check = .ok () ↔ band.Consistent := by
  rw [Consistent, ← Given.list_getD band.x, ← Given.list_getD band.y]
  unfold check values
  rcases x : Given.list band.x with _ | xs
  · simp [bind, Except.bind, Except.map]
  · have present := (Given.list_eq_some_iff.mp x).2
    rcases y : Given.list band.y with _ | ys
    · rcases band.errors with _ | errors
      · simp [bind, Except.bind, Except.map]
      · by_cases equal : errors.length = xs.length <;>
          simp [bind, Except.bind, Except.map, present, equal]
    · have given := (Given.list_eq_some_iff.mp y).2
      by_cases same : ys.length = xs.length
      · rcases band.errors with _ | errors
        · simp [bind, Except.bind, Except.map, same]
        · by_cases equal : errors.length = xs.length <;>
            simp [bind, Except.bind, Except.map, present, same, equal]
      · simp [bind, Except.bind, Except.map, given, same]

/-- A row of another length is found wherever there is one. -/
theorem Matrix.unequalRow_eq_none_iff {expected index : Nat} {rows : List (List Float)} :
    unequalRow expected index rows = none ↔ ∀ row ∈ rows, row.length = expected := by
  induction rows generalizing index with
  | nil => simp [unequalRow]
  | cons row rest ih => by_cases equal : row.length = expected <;> simp [unequalRow, equal, ih]

/-- The length of all rows is that of the first one. -/
theorem Matrix.consistent_cons {matrix : Matrix} {first : List Float} {rest : List (List Float)}
    (values : matrix.values = first :: rest) :
    matrix.Consistent ↔ first ≠ [] ∧ ∀ row ∈ first :: rest, row.length = first.length := by
  rw [Consistent, values]
  constructor
  · rintro ⟨_, columns, positive, equal⟩
    have own := equal first (by simp)
    refine ⟨?_, fun row member => (equal row member).trans own.symm⟩
    rintro rfl
    exact absurd own (Nat.ne_of_lt positive)
  · rintro ⟨present, equal⟩
    exact ⟨by simp, first.length, List.length_pos_iff.mpr present, equal⟩

theorem Matrix.check_eq_ok_iff {matrix : Matrix} : matrix.check = .ok () ↔ matrix.Consistent := by
  rcases values : matrix.values with _ | ⟨first, rest⟩
  · simp [check, shape, Consistent, values]
  · have rows : unequalRow first.length 0 (first :: rest) = none ↔ _ := unequalRow_eq_none_iff
    rw [consistent_cons values, ← rows]
    by_cases empty : first = []
    · simp [check, shape, values, empty]
    · cases found : unequalRow first.length 0 (first :: rest) <;>
        simp [check, shape, values, empty, found]

theorem Series.check_eq_ok_iff {series : Series} : series.check = .ok () ↔ series.Consistent := by
  cases series with
  | line trace => exact Trace.check_eq_ok_iff
  | scatter trace => exact Trace.check_eq_ok_iff
  | bar bars => exact Bars.check_eq_ok_iff
  | errorBand band => exact Band.check_eq_ok_iff
  | matrix values => exact Matrix.check_eq_ok_iff

end FigureScript
