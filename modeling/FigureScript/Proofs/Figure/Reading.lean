import FigureScript.Proofs.Json.Decoders

namespace FigureScript

open Json (Place ofFloat ofOption ofList ofPair ofNumbers ofText)
open Json.Decoder
open Json.Record (read_field)
open Binary64 (AllFinite)

/-! # Figures are read as they were written

One statement for every part of a figure, put together from its fields in the order in which they are
read. Numbers have to be finite, and names of bars must not be an empty list.
-/

theorem Axis.read_toJson {axis : Axis} (finite : AllFinite axis.numbers) (place : Place) :
    Axis.record.decode place axis.toJson = .ok axis := by
  have object : axis.toJson = .object _ := rfl
  exact read_field object rfl (optional_ofText axis.label) <|
    read_field object rfl (optional_ofPair finite) rfl

theorem LegendPosition.read_name (position : LegendPosition) :
    LegendPosition.decode (.string position.name) = .ok position := by
  cases position <;> rfl

theorem Legend.read_toJson {legend : Legend} (finite : Binary64.isFinite legend.fontSize = true)
    (place : Place) : Legend.record.decode place legend.toJson = .ok legend := by
  have object : legend.toJson = .object _ := rfl
  exact read_field object rfl (float_ofFloat finite) <|
    read_field object rfl legend.position.read_name rfl

theorem Style.read_toJson (style : Style) (place : Place) :
    Style.record.decode place style.toJson = .ok style := by
  have object : style.toJson = .object _ := rfl
  exact read_field object rfl rfl <| read_field object rfl rfl <| read_field object rfl rfl rfl

theorem Cell.read_toJson (cell : Cell) (place : Place) :
    Cell.record.decode place cell.toJson = .ok cell := by
  have object : cell.toJson = .object _ := rfl
  exact read_field object rfl rfl <| read_field object rfl rfl rfl

theorem Grid.read_toJson (grid : Grid) : Grid.decode grid.toJson = .ok grid := by
  have object : grid.toJson = .object _ := rfl
  have sides : PartialGrid.record.decode .document grid.toJson =
      .ok { rows := some grid.rows, columns := some grid.columns,
            shareX := grid.shareX, shareY := grid.shareY } :=
    read_field object rfl rfl <| read_field object rfl rfl <| read_field object rfl rfl <|
      read_field object rfl rfl rfl
  rw [object] at sides ⊢
  simp only [Grid.decode, sides, bind, Except.bind, ofPartial]

theorem Color.read_toJson (color : Color) : Color.decode color.toJson = .ok color := by
  cases color with
  | palette => rfl
  | named name => rfl

theorem read_optionalColor (color : Option Color) :
    optional Color.decode (ofOption Color.toJson color) = .ok color := by
  refine optional_ofOption (fun present _ => present.read_toJson) fun present _ => ?_
  cases present <;> simp [Color.toJson]

/-- Names are told from positions by the first of them. -/
theorem Categories.read_toJson {categories : Categories} (finite : AllFinite categories.numbers)
    (named : categories ≠ .labels []) : Categories.decode categories.toJson = .ok categories := by
  cases categories with
  | numeric positions =>
      have read : list float (ofList ofFloat positions) = .ok positions := list_ofFloats finite
      simp only [Categories.decode, Categories.toJson, read]
  | labels names =>
      have read : list text (ofList .string names) = .ok names := list_ofList fun _ _ => rfl
      cases names with
      | nil => contradiction
      | cons name rest =>
          obtain ⟨fault, refused⟩ : ∃ fault,
              list float (ofList Json.string (name :: rest)) = .error fault := ⟨_, rfl⟩
          simp only [Categories.decode, Categories.toJson, read, refused]

theorem read_optionalCategories {categories : Option Categories}
    (finite : ∀ present ∈ categories, AllFinite present.numbers)
    (named : categories ≠ some (.labels [])) :
    optional Categories.decode (ofOption Categories.toJson categories) = .ok categories := by
  refine optional_ofOption (fun present given => ?_) fun present _ => ?_
  · refine Categories.read_toJson (finite present given) ?_
    rintro rfl
    exact named given
  · cases present <;> simp [Categories.toJson, ofList]

/-! ## Series -/

theorem Trace.read_toJson {trace : Trace} (finite : AllFinite trace.numbers) (kind : SeriesKind)
    (place : Place) : Trace.record.decode place (trace.toJson kind) = .ok trace := by
  obtain ⟨x, y⟩ := Trace.allFinite_iff.mp finite
  have object : trace.toJson kind = .object _ := rfl
  exact read_field object rfl (read_optionalColor trace.color) <|
    read_field object rfl (optional_ofText trace.label) <|
    read_field object rfl (trace.cell.read_toJson _) <|
    read_field object rfl (optional_ofNumbers x) <|
    read_field object rfl (optional_ofNumbers y) rfl

theorem Bars.read_toJson {bars : Bars} (finite : AllFinite bars.numbers)
    (named : bars.categories ≠ some (.labels [])) (place : Place) :
    Bars.record.decode place bars.toJson = .ok bars := by
  obtain ⟨values, positions, errors, width⟩ := Bars.allFinite_iff.mp finite
  have object : bars.toJson = .object _ := rfl
  exact read_field object rfl (read_optionalCategories positions named) <|
    read_field object rfl (read_optionalColor bars.color) <|
    read_field object rfl (optional_ofNumbers errors) <|
    read_field object rfl rfl <|
    read_field object rfl (optional_ofText bars.label) <|
    read_field object rfl (bars.cell.read_toJson _) <|
    read_field object rfl (optional_ofNumbers values) <|
    read_field object rfl (optional_ofFloat width) rfl

theorem Band.read_toJson {band : Band} (finite : AllFinite band.numbers) (place : Place) :
    Band.record.decode place band.toJson = .ok band := by
  obtain ⟨x, y, errors, alpha⟩ := Band.allFinite_iff.mp finite
  have object : band.toJson = .object _ := rfl
  exact read_field object rfl (optional_ofFloat alpha) <|
    read_field object rfl (read_optionalColor band.color) <|
    read_field object rfl (optional_ofText band.errorLabel) <|
    read_field object rfl (optional_ofNumbers errors) <|
    read_field object rfl (optional_ofText band.label) <|
    read_field object rfl (band.cell.read_toJson _) <|
    read_field object rfl (optional_ofNumbers x) <|
    read_field object rfl (optional_ofNumbers y) rfl

theorem Matrix.read_toJson {matrix : Matrix} (finite : AllFinite matrix.numbers) (place : Place) :
    Matrix.record.decode place matrix.toJson = .ok matrix := by
  have rows : list (list float) (ofList (ofList ofFloat) matrix.values) = .ok matrix.values := by
    exact list_ofList fun row member => list_ofFloats (Matrix.allFinite_iff.mp finite row member)
  have object : matrix.toJson = .object _ := rfl
  exact read_field object rfl (optional_ofText matrix.colorMap) <|
    read_field object rfl rfl <|
    read_field object rfl (optional_ofText matrix.label) <|
    read_field object rfl (matrix.cell.read_toJson _) <|
    read_field object rfl rows rfl

theorem SeriesKind.read_name (kind : SeriesKind) :
    SeriesKind.decode (.string kind.name) = .ok kind := by
  cases kind <;> rfl

/-- The tag of a series tells how its other members are read. -/
theorem Series.decode_object (kind : SeriesKind) {members : List (String × Json)}
    (tag : Json.lookup "kind" members = some (.string kind.name)) :
    Series.decode (.object members) = kind.content (.object members) := by
  simp only [Series.decode, tag, kind.read_name, bind, Except.bind]

theorem Series.read_toJson {series : Series} (representable : series.Representable) :
    Series.decode series.toJson = .ok series := by
  obtain ⟨finite, named⟩ := representable
  cases series with
  | line trace =>
      have content : SeriesKind.line.content (trace.toJson .line) = .ok (.line trace) := by
        simp only [SeriesKind.content, trace.read_toJson finite, Except.map]
      exact (decode_object .line rfl).trans content
  | scatter trace =>
      have content : SeriesKind.scatter.content (trace.toJson .scatter) = .ok (.scatter trace) := by
        simp only [SeriesKind.content, trace.read_toJson finite, Except.map]
      exact (decode_object .scatter rfl).trans content
  | bar bars =>
      have content : SeriesKind.bar.content bars.toJson = .ok (.bar bars) := by
        simp only [SeriesKind.content, bars.read_toJson finite (named bars rfl), Except.map]
      exact (decode_object .bar rfl).trans content
  | errorBand band =>
      have content : SeriesKind.errorBand.content band.toJson = .ok (.errorBand band) := by
        simp only [SeriesKind.content, band.read_toJson finite, Except.map]
      exact (decode_object .errorBand rfl).trans content
  | matrix matrix =>
      have content : SeriesKind.matrix.content matrix.toJson = .ok (.matrix matrix) := by
        simp only [SeriesKind.content, matrix.read_toJson finite, Except.map]
      exact (decode_object .matrix rfl).trans content

/-! ## Figures -/

theorem TwinAxis.read_toJson {twin : TwinAxis} (finite : AllFinite twin.numbers)
    (named : ∀ series ∈ twin.series, series.Named) (place : Place) :
    TwinAxis.record.decode place twin.toJson = .ok twin := by
  obtain ⟨yAxis, each⟩ := TwinAxis.allFinite_iff.mp finite
  have drawn : list Series.decode (ofList Series.toJson twin.series) = .ok twin.series :=
    list_ofList fun series member =>
      Series.read_toJson ⟨each series member, named series member⟩
  have object : twin.toJson = .object _ := rfl
  exact read_field object rfl drawn <| read_field object rfl (Axis.read_toJson yAxis _) rfl

theorem Figure.read_toJson {figure : Figure} (representable : figure.Representable) :
    Figure.ofJson figure.toJson = .ok figure := by
  obtain ⟨finite, named⟩ := representable
  obtain ⟨xAxis, yAxis, fontSize, second, drawn, size, tickLabelSize⟩ :=
    Figure.allFinite_iff.mp finite
  have primary : list Series.decode (ofList Series.toJson figure.series) = .ok figure.series :=
    list_ofList fun series member =>
      Series.read_toJson ⟨drawn series member, named series (List.mem_append_left _ member)⟩
  have subplots : optional Grid.decode (ofOption Grid.toJson figure.subplots) = .ok figure.subplots :=
    optional_ofOption (fun grid _ => grid.read_toJson) fun _ _ => by simp [Grid.toJson]
  have twin : optional (TwinAxis.record.decode .document) (ofOption TwinAxis.toJson figure.twin) =
      .ok figure.twin := by
    refine optional_ofOption (fun twin given => ?_) fun _ _ => by simp [TwinAxis.toJson]
    refine TwinAxis.read_toJson (second twin given) ?_ _
    intro series member
    refine named series (List.mem_append_right _ ?_)
    rwa [Figure.twinSeries, Option.mem_def.mp given]
  have object : figure.toJson = .object _ := rfl
  exact read_field object rfl rfl <|
    read_field object rfl (Legend.read_toJson fontSize _) <|
    read_field object rfl (optional_ofText figure.outputName) <|
    read_field object rfl primary <|
    read_field object rfl rfl <|
    read_field object rfl (optional_ofPair size) <|
    read_field object rfl (figure.style.read_toJson _) <|
    read_field object rfl subplots <|
    read_field object rfl (optional_ofFloat tickLabelSize) <|
    read_field object rfl rfl <|
    read_field object rfl (optional_ofText figure.title) <|
    read_field object rfl twin <|
    read_field object rfl (Axis.read_toJson xAxis _) <|
    read_field object rfl (Axis.read_toJson yAxis _) rfl

end FigureScript
