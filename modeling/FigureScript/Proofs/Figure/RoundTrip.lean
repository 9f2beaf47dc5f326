import FigureScript.Figure.Document
import FigureScript.Proofs.Figure.Admission
import FigureScript.Proofs.Figure.Reading
import FigureScript.Proofs.Json.Yields

namespace FigureScript

open Json.Decoder
open Json.Record (exists_of_field)
open Binary64 (AllFinite)

/-! # Figures through JSON and back

What JSON can hold of a figure is what it gives back: a figure read from JSON is representable, and a
representable figure is written as a value that the schema admits and that is read as the same figure.
-/

/-! ## What is read is representable -/

theorem yields_optionalNumbers :
    optionalNumbers.Yields fun values => AllFinite (values.getD []) := by
  refine yields_float.list.optional.mono fun values each => ?_
  cases values with
  | none => simp
  | some values => exact each values rfl

theorem yields_optionalNumber : (optional float).Yields fun value => AllFinite value.toList :=
  yields_float.optional.mono fun _ each value given => each value (Option.mem_toList.mp given)

theorem yields_optionalPair :
    (optional (.pair .float)).Yields fun pair => AllFinite (pairNumbers pair) := by
  refine yields_float.pair.optional.mono fun pair each => ?_
  cases pair with
  | none => simp [pairNumbers]
  | some pair => simpa [pairNumbers] using each pair rfl

theorem Axis.yields_record : Axis.record.Yields fun axis => AllFinite axis.numbers := by
  intro members finite axis read
  obtain ⟨_, _, read⟩ := Fallible.bind_eq_ok_iff.mp read
  obtain ⟨_, limits, read⟩ := exists_of_field read finite yields_optionalPair (by simp [pairNumbers])
  cases read
  exact limits

theorem Legend.yields_record :
    Legend.record.Yields fun legend => Binary64.isFinite legend.fontSize = true := by
  intro members finite legend read
  obtain ⟨_, fontSize, read⟩ := exists_of_field read finite yields_float (by decide)
  obtain ⟨_, _, read⟩ := Fallible.bind_eq_ok_iff.mp read
  cases read
  exact fontSize

/-- An empty list is read as positions, so that names which are read are not an empty list. -/
theorem Categories.yields_decode :
    Categories.decode.Yields fun categories =>
      AllFinite categories.numbers ∧ categories ≠ .labels [] := by
  intro document finite categories read
  unfold Categories.decode at read
  split at read
  · rename_i positions floats
    cases read
    exact ⟨yields_float.list document finite positions floats, by simp⟩
  · rename_i fault refused
    split at read
    · rename_i names texts
      cases read
      refine ⟨by simp [Categories.numbers], ?_⟩
      rintro ⟨rfl⟩
      rw [eq_of_list_eq_nil texts] at refused
      contradiction
    · contradiction

theorem Trace.yields_record : Trace.record.Yields fun trace => AllFinite trace.numbers := by
  intro members finite trace read
  obtain ⟨_, _, read⟩ := Fallible.bind_eq_ok_iff.mp read
  obtain ⟨_, _, read⟩ := Fallible.bind_eq_ok_iff.mp read
  obtain ⟨_, _, read⟩ := Fallible.bind_eq_ok_iff.mp read
  obtain ⟨_, x, read⟩ := exists_of_field read finite yields_optionalNumbers (by simp)
  obtain ⟨_, y, read⟩ := exists_of_field read finite yields_optionalNumbers (by simp)
  cases read
  exact Trace.allFinite_iff.mpr ⟨x, y⟩

theorem Bars.yields_record :
    Bars.record.Yields fun bars =>
      AllFinite bars.numbers ∧ bars.categories ≠ some (.labels []) := by
  intro members finite bars read
  obtain ⟨categories, given, read⟩ :=
    exists_of_field read finite Categories.yields_decode.optional (by simp)
  obtain ⟨_, _, read⟩ := Fallible.bind_eq_ok_iff.mp read
  obtain ⟨_, errors, read⟩ := exists_of_field read finite yields_optionalNumbers (by simp)
  obtain ⟨_, _, read⟩ := Fallible.bind_eq_ok_iff.mp read
  obtain ⟨_, _, read⟩ := Fallible.bind_eq_ok_iff.mp read
  obtain ⟨_, _, read⟩ := Fallible.bind_eq_ok_iff.mp read
  obtain ⟨_, values, read⟩ := exists_of_field read finite yields_optionalNumbers (by simp)
  obtain ⟨_, width, read⟩ := exists_of_field read finite yields_optionalNumber (by simp)
  cases read
  have positions : ∀ present ∈ categories, AllFinite present.numbers :=
    fun present inside => (given present inside).1
  refine ⟨Bars.allFinite_iff.mpr ⟨values, positions, errors, width⟩, ?_⟩
  exact fun nameless => (given (.labels []) nameless).2 rfl

theorem Band.yields_record : Band.record.Yields fun band => AllFinite band.numbers := by
  intro members finite band read
  obtain ⟨_, alpha, read⟩ := exists_of_field read finite yields_optionalNumber (by simp)
  obtain ⟨_, _, read⟩ := Fallible.bind_eq_ok_iff.mp read
  obtain ⟨_, _, read⟩ := Fallible.bind_eq_ok_iff.mp read
  obtain ⟨_, errors, read⟩ := exists_of_field read finite yields_optionalNumbers (by simp)
  obtain ⟨_, _, read⟩ := Fallible.bind_eq_ok_iff.mp read
  obtain ⟨_, _, read⟩ := Fallible.bind_eq_ok_iff.mp read
  obtain ⟨_, x, read⟩ := exists_of_field read finite yields_optionalNumbers (by simp)
  obtain ⟨_, y, read⟩ := exists_of_field read finite yields_optionalNumbers (by simp)
  cases read
  exact Band.allFinite_iff.mpr ⟨x, y, errors, alpha⟩

theorem Matrix.yields_record : Matrix.record.Yields fun matrix => AllFinite matrix.numbers := by
  intro members finite matrix read
  obtain ⟨_, _, read⟩ := Fallible.bind_eq_ok_iff.mp read
  obtain ⟨_, _, read⟩ := Fallible.bind_eq_ok_iff.mp read
  obtain ⟨_, _, read⟩ := Fallible.bind_eq_ok_iff.mp read
  obtain ⟨_, _, read⟩ := Fallible.bind_eq_ok_iff.mp read
  obtain ⟨_, rows, read⟩ := exists_of_field read finite yields_float.list.list (by simp)
  cases read
  exact Matrix.allFinite_iff.mpr rows

/-- Of the kinds of series only bars have names. -/
theorem Series.representable_of_not_bar (series : Series) (other : ∀ bars, series ≠ .bar bars)
    (finite : AllFinite series.numbers) : series.Representable :=
  ⟨finite, fun bars same => absurd same (other bars)⟩

theorem SeriesKind.yields_content (kind : SeriesKind) :
    Json.Decoder.Yields kind.content Series.Representable := by
  cases kind with
  | line =>
      exact (Trace.yields_record.decode _).map fun trace =>
        (Series.line trace).representable_of_not_bar (by simp)
  | scatter =>
      exact (Trace.yields_record.decode _).map fun trace =>
        (Series.scatter trace).representable_of_not_bar (by simp)
  | bar =>
      refine (Bars.yields_record.decode _).map fun bars own => ⟨own.1, ?_⟩
      rintro _ ⟨rfl⟩
      exact own.2
  | errorBand =>
      exact (Band.yields_record.decode _).map fun band =>
        (Series.errorBand band).representable_of_not_bar (by simp)
  | matrix =>
      exact (Matrix.yields_record.decode _).map fun matrix =>
        (Series.matrix matrix).representable_of_not_bar (by simp)

theorem Series.yields_decode : Series.decode.Yields Series.Representable := by
  intro document finite series read
  cases document with
  | object members =>
      rw [Series.decode] at read
      split at read
      · obtain ⟨kind, _, content⟩ := Fallible.bind_eq_ok_iff.mp read
        exact kind.yields_content _ finite series content
      · contradiction
  | array items =>
      cases items with
      | nil => contradiction
      | cons tag items =>
          obtain ⟨kind, _, content⟩ := Fallible.bind_eq_ok_iff.mp read
          refine kind.yields_content _ ?_ series content
          rw [Json.finite_array, List.forall_mem_cons] at finite
          exact Json.finite_array.mpr finite.2
  | null | boolean | number | string => contradiction

theorem TwinAxis.yields_record :
    TwinAxis.record.Yields fun twin =>
      AllFinite twin.numbers ∧ ∀ series ∈ twin.series, series.Named := by
  intro members finite twin read
  obtain ⟨_, drawn, read⟩ := exists_of_field read finite Series.yields_decode.list (by simp)
  obtain ⟨_, yAxis, read⟩ := exists_of_field read finite (Axis.yields_record.decode _) (by decide)
  cases read
  refine ⟨?_, fun series member => (drawn series member).named⟩
  exact TwinAxis.allFinite_iff.mpr ⟨yAxis, fun series member => (drawn series member).finite⟩

theorem Figure.yields_ofJson : Json.Decoder.Yields Figure.ofJson Figure.Representable := by
  refine Json.Record.Yields.decode ?_ .document
  intro members finite figure read
  obtain ⟨_, _, read⟩ := Fallible.bind_eq_ok_iff.mp read
  obtain ⟨_, legend, read⟩ := exists_of_field read finite (Legend.yields_record.decode _) (by decide)
  obtain ⟨_, _, read⟩ := Fallible.bind_eq_ok_iff.mp read
  obtain ⟨_, primary, read⟩ := exists_of_field read finite Series.yields_decode.list (by simp)
  obtain ⟨_, _, read⟩ := Fallible.bind_eq_ok_iff.mp read
  obtain ⟨_, size, read⟩ := exists_of_field read finite yields_optionalPair (by simp [pairNumbers])
  obtain ⟨_, _, read⟩ := Fallible.bind_eq_ok_iff.mp read
  obtain ⟨_, _, read⟩ := Fallible.bind_eq_ok_iff.mp read
  obtain ⟨_, tickLabelSize, read⟩ := exists_of_field read finite yields_optionalNumber (by simp)
  obtain ⟨_, _, read⟩ := Fallible.bind_eq_ok_iff.mp read
  obtain ⟨_, _, read⟩ := Fallible.bind_eq_ok_iff.mp read
  obtain ⟨twin, second, read⟩ :=
    exists_of_field read finite (TwinAxis.yields_record.decode _).optional (by simp)
  obtain ⟨_, xAxis, read⟩ := exists_of_field read finite (Axis.yields_record.decode _) (by decide)
  obtain ⟨_, yAxis, read⟩ := exists_of_field read finite (Axis.yields_record.decode _) (by decide)
  cases read
  constructor
  · have drawn := fun series member => (primary series member).finite
    have others := fun axis given => (second axis given).1
    exact allFinite_iff.mpr ⟨xAxis, yAxis, legend, others, drawn, size, tickLabelSize⟩
  · intro series member
    rcases List.mem_append.mp member with first | later
    · exact (primary series first).named
    · cases twin with
      | none => exact absurd later List.not_mem_nil
      | some axis => exact (second axis rfl).2 series later

/-! ## Round trip -/

namespace Figure

theorem checkSchema_of_admits {document : Json} (admits : FigureSchema.figure.Admits document) :
    checkSchema document = .ok () := by
  have nothing : Schema.violations [] document FigureSchema.figure = [] := admits
  simp only [checkSchema, nothing]

/-- A representable figure is written as a value that the schema admits and that is read as this
figure. The figures that are read from JSON values are representable. -/
theorem toJson_round_trips (figure : Figure) :
    (figure.Representable →
      checkSchema figure.toJson = .ok () ∧ ofJson figure.toJson = .ok figure) ∧
    ∀ document : Json, document.Finite → ofJson document = .ok figure → figure.Representable := by
  refine ⟨fun representable => ⟨?_, read_toJson representable⟩, ?_⟩
  · exact checkSchema_of_admits (FigureSchema.admits_figure representable.finite)
  · exact fun document finite read => yields_ofJson document finite figure read

/-- A figure with series of every kind and most of its options set. -/
def everyKind : Figure where
  title := some "it's"
  yAxis := { limits := some (-1.5, 2.0) }
  legend := { position := .lowerLeft, fontSize := 9.5 }
  twin := some { series := [.scatter { y := some [0.1] }] }
  subplots := some { rows := 2, columns := 1, shareX := true }
  series :=
    [.line { x := some [], y := some [1e20, -0.0], color := some .palette },
      .bar
        { values := some [1.0], categories := some (.labels ["first"]), width := some 0.5,
          color := some (.named "C2"), cell := { row := 1 } },
      .errorBand { x := some [1.0], errors := some [0.5], errorLabel := some "" },
      .matrix { values := [[1.0], []], hinton := true, label := some "m" }]
  size := some (3.0, 4.0)
  showWindow := false

/-- Bars read from a value with an empty list of categories, which counts as a list of positions. -/
def emptyCategories : Json :=
  .object
    [("series", .array [.object [("categories", .array []), ("kind", .string "bar"),
      ("values", .array [.number (.negative (-3) (by decide)), .number (.float 0.25)])]])]

theorem everyKind_round_trips :
    (everyKind.Representable ∧
      checkSchema everyKind.toJson = .ok () ∧ ofJson everyKind.toJson = .ok everyKind) ∧
    ∃ figure, emptyCategories.Finite ∧ ofJson emptyCategories = .ok figure ∧
      figure.Representable := by
  have named : ∀ series ∈ everyKind.allSeries, series.Named := by
    simp [everyKind, allSeries, twinSeries, Series.Named]
  have representable : everyKind.Representable := ⟨by decide, named⟩
  have quarter : Binary64.isFinite 0.25 = true := by decide
  have finite : emptyCategories.Finite := by
    simp [emptyCategories, Json.Finite, Json.FiniteEach, Json.FiniteMembers, quarter]
  refine ⟨⟨representable, (toJson_round_trips everyKind).1 representable⟩, _, finite, rfl, ?_⟩
  exact (toJson_round_trips _).2 emptyCategories finite rfl

end Figure

end FigureScript
