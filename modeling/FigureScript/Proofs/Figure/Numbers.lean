import FigureScript.Figure.Basic

namespace FigureScript

/-! # What JSON can hold of a figure

JSON has no infinities and no value that is not a number, and an empty list of names looks like an
empty list of positions. A figure without these is representable.
-/

def Binary64.AllFinite (values : List Float) : Prop :=
  ∀ value ∈ values, Binary64.isFinite value = true

instance (values : List Float) : Decidable (Binary64.AllFinite values) := List.decidableBAll _ _

open Binary64 (AllFinite)

namespace Binary64.AllFinite

variable {first second : List Float} {value : Float}

@[simp] theorem nil : AllFinite [] := by simp [AllFinite]

@[simp] theorem cons_iff :
    AllFinite (value :: first) ↔ Binary64.isFinite value = true ∧ AllFinite first := by
  simp [AllFinite]

@[simp] theorem append_iff : AllFinite (first ++ second) ↔ AllFinite first ∧ AllFinite second := by
  simp [AllFinite, or_imp, forall_and]

@[simp] theorem flatMap_iff {α : Type} {items : List α} {numbers : α → List Float} :
    AllFinite (items.flatMap numbers) ↔ ∀ item ∈ items, AllFinite (numbers item) := by
  simp only [AllFinite, List.forall_mem_flatMap]

end Binary64.AllFinite

def pairNumbers (pair : Option (Float × Float)) : List Float :=
  pair.toList.flatMap fun values => [values.1, values.2]

def Axis.numbers (axis : Axis) : List Float := pairNumbers axis.limits

def Categories.numbers : Categories → List Float
  | numeric positions => positions
  | labels _ => []

def Trace.numbers (trace : Trace) : List Float := trace.x.getD [] ++ trace.y.getD []

def Bars.numbers (bars : Bars) : List Float :=
  bars.values.getD [] ++ bars.categories.toList.flatMap Categories.numbers ++ bars.errors.getD [] ++
    bars.width.toList

def Band.numbers (band : Band) : List Float :=
  band.x.getD [] ++ band.y.getD [] ++ band.errors.getD [] ++ band.alpha.toList

def Matrix.numbers (matrix : Matrix) : List Float := matrix.values.flatten

def Series.numbers : Series → List Float
  | line trace | scatter trace => trace.numbers
  | bar bars => bars.numbers
  | errorBand band => band.numbers
  | matrix values => values.numbers

def TwinAxis.numbers (twin : TwinAxis) : List Float :=
  twin.yAxis.numbers ++ twin.series.flatMap Series.numbers

/-- All numbers of a figure but the sizes of its grid and the cells in it. -/
def Figure.numbers (figure : Figure) : List Float :=
  figure.xAxis.numbers ++ figure.yAxis.numbers ++ [figure.legend.fontSize] ++
    figure.twin.toList.flatMap TwinAxis.numbers ++ figure.series.flatMap Series.numbers ++
    pairNumbers figure.size ++ figure.tickLabelSize.toList

/-! ## Numbers part by part -/

theorem Trace.allFinite_iff {trace : Trace} :
    AllFinite trace.numbers ↔ AllFinite (trace.x.getD []) ∧ AllFinite (trace.y.getD []) := by
  simp [Trace.numbers]

theorem Bars.allFinite_iff {bars : Bars} :
    AllFinite bars.numbers ↔ AllFinite (bars.values.getD []) ∧
      (∀ categories ∈ bars.categories, AllFinite categories.numbers) ∧
      AllFinite (bars.errors.getD []) ∧ AllFinite bars.width.toList := by
  simp [Bars.numbers]

theorem Band.allFinite_iff {band : Band} :
    AllFinite band.numbers ↔ AllFinite (band.x.getD []) ∧ AllFinite (band.y.getD []) ∧
      AllFinite (band.errors.getD []) ∧ AllFinite band.alpha.toList := by
  simp [Band.numbers]

theorem Matrix.allFinite_iff {matrix : Matrix} :
    AllFinite matrix.numbers ↔ ∀ row ∈ matrix.values, AllFinite row := by
  simp only [Matrix.numbers, AllFinite, List.mem_flatten]
  constructor
  · exact fun finite row member number held => finite number ⟨row, member, held⟩
  · rintro finite number ⟨row, member, held⟩
    exact finite row member number held

theorem TwinAxis.allFinite_iff {twin : TwinAxis} :
    AllFinite twin.numbers ↔
      AllFinite twin.yAxis.numbers ∧ ∀ series ∈ twin.series, AllFinite series.numbers := by
  simp [TwinAxis.numbers]

theorem Figure.allFinite_iff {figure : Figure} :
    AllFinite figure.numbers ↔ AllFinite figure.xAxis.numbers ∧ AllFinite figure.yAxis.numbers ∧
      Binary64.isFinite figure.legend.fontSize = true ∧
      (∀ twin ∈ figure.twin, AllFinite twin.numbers) ∧
      (∀ series ∈ figure.series, AllFinite series.numbers) ∧
      AllFinite (pairNumbers figure.size) ∧ AllFinite figure.tickLabelSize.toList := by
  simp [Figure.numbers]

/-! ## Representable figures -/

/-- The names of bars, where they are given, are not an empty list. -/
def Series.Named (series : Series) : Prop :=
  ∀ bars, series = .bar bars → bars.categories ≠ some (.labels [])

structure Series.Representable (series : Series) : Prop where
  finite : AllFinite series.numbers
  named : series.Named

structure Figure.Representable (figure : Figure) : Prop where
  finite : AllFinite figure.numbers
  named : ∀ series ∈ figure.allSeries, series.Named

end FigureScript
