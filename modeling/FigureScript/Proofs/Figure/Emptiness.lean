import FigureScript.Proofs.Figure.Alike

namespace FigureScript

/-! # Empty settings

An optional text or list that is set to something empty might as well be missing. Main statement:
whichever of them are taken out of a figure, it compiles to the same script, or fails with the same
error, and the same is reported.
-/

/-- A setting stays as it is, or it was empty and is now missing. -/
inductive Given.Cleared {α : Type} (empty : α) : Option α → Option α → Prop
  | kept (value : Option α) : Cleared empty value value
  | removed : Cleared empty (some empty) none

namespace Given.Cleared

variable {before after : Option String}

theorem list {α : Type} {values others : Option (List α)} (cleared : Cleared [] values others) :
    Given.list values = Given.list others := by
  cases cleared with
  | kept => rfl
  | removed => rfl

theorem text (cleared : Cleared "" before after) : Given.text before = Given.text after := by
  cases cleared with
  | kept => rfl
  | removed => rfl

theorem figureName (cleared : Cleared "" before after) :
    FileName.figure before = FileName.figure after := by
  cases cleared with
  | kept => rfl
  | removed => rfl

/-- An empty text is never reported. -/
theorem filter_isUnsafe {texts others : List (Option String)}
    (cleared : List.Forall₂ (Cleared "") texts others) :
    (texts.filterMap id).filter Literal.isUnsafe =
      (others.filterMap id).filter Literal.isUnsafe := by
  rw [List.filterMap_eq_flatMap_toList, List.filterMap_eq_flatMap_toList, List.filter_flatMap,
    List.filter_flatMap]
  refine Related.flatMap_eq cleared fun text other same => ?_
  cases same with
  | kept => rfl
  | removed => decide

end Given.Cleared

/-- Empty values and labels of a series are taken out, all of them or some. -/
inductive Series.Cleared : Series → Series → Prop
  | line {trace : Trace} {x y : Option (List Float)} {label : Option String}
      (clearedX : Given.Cleared [] trace.x x) (clearedY : Given.Cleared [] trace.y y)
      (clearedLabel : Given.Cleared "" trace.label label) :
      Cleared (.line trace) (.line { trace with x, y, label })
  | scatter {trace : Trace} {x y : Option (List Float)} {label : Option String}
      (clearedX : Given.Cleared [] trace.x x) (clearedY : Given.Cleared [] trace.y y)
      (clearedLabel : Given.Cleared "" trace.label label) :
      Cleared (.scatter trace) (.scatter { trace with x, y, label })
  | bar {bars : Bars} {values : Option (List Float)} {label : Option String}
      (clearedValues : Given.Cleared [] bars.values values)
      (clearedLabel : Given.Cleared "" bars.label label) :
      Cleared (.bar bars) (.bar { bars with values, label })
  | errorBand {band : Band} {x y : Option (List Float)} {errorLabel label : Option String}
      (clearedX : Given.Cleared [] band.x x) (clearedY : Given.Cleared [] band.y y)
      (clearedErrorLabel : Given.Cleared "" band.errorLabel errorLabel)
      (clearedLabel : Given.Cleared "" band.label label) :
      Cleared (.errorBand band) (.errorBand { band with x, y, errorLabel, label })
  | matrix {matrix : Matrix} {label : Option String}
      (clearedLabel : Given.Cleared "" matrix.label label) :
      Cleared (.matrix matrix) (.matrix { matrix with label })

namespace Series

theorem labelArgument_of_cleared {text other : Option String}
    (cleared : Given.Cleared "" text other) : labelArgument text = labelArgument other := by
  rw [labelArgument, labelArgument, cleared.text]

namespace Cleared

variable {series other : Series}

theorem label (cleared : series.Cleared other) :
    Given.Cleared "" series.label other.label := by
  cases cleared with
  | line _ _ clearedLabel | scatter _ _ clearedLabel | bar _ clearedLabel
  | errorBand _ _ _ clearedLabel | matrix clearedLabel => exact clearedLabel

theorem notes (cleared : series.Cleared other) : series.notes = other.notes := by
  cases cleared with
  | line | scatter | bar | errorBand | matrix => rfl

theorem statements (cleared : series.Cleared other) (axes : Axes) :
    series.statements axes = other.statements axes := by
  cases cleared with
  | line clearedX clearedY clearedLabel =>
      simp only [Series.statements, Trace.line, Trace.lineStatement, Trace.points, Trace.options,
        clearedX.list, clearedY.list, labelArgument_of_cleared clearedLabel]
  | scatter clearedX clearedY clearedLabel =>
      simp only [Series.statements, Trace.scatter, Trace.scatterStatement, Trace.points,
        Trace.options, clearedX.list, clearedY.list, labelArgument_of_cleared clearedLabel]
  | bar clearedValues clearedLabel =>
      simp only [Series.statements, Bars.draw, Bars.drawStatement, Bars.check, Bars.heights,
        Bars.positions, clearedValues.list, labelArgument_of_cleared clearedLabel]
      rfl
  | errorBand clearedX clearedY clearedErrorLabel clearedLabel =>
      simp only [Series.statements, Band.draw, Band.lineStatement, Band.values, Band.fillStatement,
        Band.fill, clearedX.list, clearedY.list, clearedErrorLabel.text,
        labelArgument_of_cleared clearedErrorLabel, labelArgument_of_cleared clearedLabel]
      rfl
  | matrix clearedLabel => rfl

theorem alike (cleared : series.Cleared other) (placed : Bool) : series.Alike placed other where
  statements := cleared.statements
  usesPalette := by
    cases cleared with
    | line | scatter | bar | errorBand | matrix => rfl
  hasLegendEntry := by
    have label := cleared.label.text
    cases cleared with
    | line | scatter | bar | matrix =>
        simp only [hasLegendEntry, legendTexts, List.filterMap_cons, label]
    | errorBand _ _ clearedErrorLabel clearedLabel =>
        simp only [hasLegendEntry, legendTexts, List.filterMap_cons, clearedErrorLabel.text,
          clearedLabel.text]
  label := cleared.label.text
  cell _ := by
    cases cleared with
    | line | scatter | bar | errorBand | matrix => rfl

end Cleared

end Series

inductive TwinAxis.Cleared (twin : TwinAxis) : TwinAxis → Prop
  | intro {label : Option String} {series : List Series}
      (clearedLabel : Given.Cleared "" twin.yAxis.label label)
      (clearedSeries : List.Forall₂ Series.Cleared twin.series series) :
      Cleared twin { yAxis := { twin.yAxis with label }, series }

namespace Figure

/-- Empty texts and lists are taken out of the figure and of its series, all of them or some;
nothing else changes. -/
inductive Cleared (figure : Figure) : Figure → Prop
  | intro {title xLabel yLabel outputName : Option String} {twin : Option TwinAxis}
      {series : List Series}
      (clearedTitle : Given.Cleared "" figure.title title)
      (clearedXLabel : Given.Cleared "" figure.xAxis.label xLabel)
      (clearedYLabel : Given.Cleared "" figure.yAxis.label yLabel)
      (clearedOutputName : Given.Cleared "" figure.outputName outputName)
      (clearedTwin : Option.Rel TwinAxis.Cleared figure.twin twin)
      (clearedSeries : List.Forall₂ Series.Cleared figure.series series) :
      Cleared figure
        { figure with
          title, outputName, twin, series
          xAxis := { figure.xAxis with label := xLabel }
          yAxis := { figure.yAxis with label := yLabel } }

variable {figure other : Figure}

namespace Cleared

theorem alike_twin {twin second : TwinAxis} (cleared : twin.Cleared second) :
    twin.Alike second := by
  cases cleared with
  | intro clearedLabel clearedSeries =>
      exact ⟨⟨clearedLabel.text, rfl⟩, clearedSeries.imp fun _ _ same => same.alike false⟩

theorem alike (cleared : figure.Cleared other) : figure.Alike other := by
  cases cleared with
  | intro clearedTitle clearedXLabel clearedYLabel clearedOutputName clearedTwin clearedSeries =>
      exact
        { title := clearedTitle.text
          xAxis := ⟨clearedXLabel.text, rfl⟩
          yAxis := ⟨clearedYLabel.text, rfl⟩
          twin := Related.option_imp clearedTwin fun _ _ same => alike_twin same
          subplots := rfl
          series := clearedSeries.imp fun _ _ same => same.alike _
          styling := rfl
          token := fun _ => rfl
          legend := fun _ => rfl
          tight := fun _ => rfl
          outputPath := clearedOutputName.figureName
          size := rfl
          tickLabelSize := rfl
          showWindow := rfl
          block := fun _ => rfl }

theorem allSeries (cleared : figure.Cleared other) :
    List.Forall₂ Series.Cleared figure.allSeries other.allSeries := by
  cases cleared with
  | intro _ _ _ _ clearedTwin clearedSeries =>
      refine List.rel_append clearedSeries ?_
      rcases Related.option_cases clearedTwin with ⟨absent, rfl⟩ | ⟨_, _, present, rfl, same⟩
      · rw [twinSeries, absent]
        exact .nil
      · cases same with
        | intro _ twins =>
            rw [twinSeries, present]
            exact twins

theorem notes (cleared : figure.Cleared other) :
    figure.allSeries.flatMap Series.notes = other.allSeries.flatMap Series.notes :=
  Related.flatMap_eq cleared.allSeries fun _ _ same => same.notes

theorem twinLabel {first second : Option TwinAxis}
    (cleared : Option.Rel TwinAxis.Cleared first second) :
    Given.Cleared "" (first.bind fun twin => twin.yAxis.label)
      (second.bind fun twin => twin.yAxis.label) := by
  cases cleared with
  | none => exact .kept none
  | some twins =>
      cases twins with
      | intro clearedLabel _ => exact clearedLabel

theorem warnings (cleared : figure.Cleared other) : figure.warnings = other.warnings := by
  have labels : List.Forall₂ (Given.Cleared "") (figure.allSeries.map Series.label)
      (other.allSeries.map Series.label) := by
    rw [List.forall₂_map_left_iff, List.forall₂_map_right_iff]
    exact cleared.allSeries.imp fun _ _ same => same.label
  have texts : figure.checkedTexts.filter Literal.isUnsafe =
      other.checkedTexts.filter Literal.isUnsafe := by
    refine Given.Cleared.filter_isUnsafe (List.rel_append ?_ labels)
    cases cleared with
    | intro clearedTitle clearedXLabel clearedYLabel clearedOutputName clearedTwin _ =>
        exact .cons clearedTitle (.cons clearedXLabel (.cons clearedYLabel
          (.cons (twinLabel clearedTwin) (.cons clearedOutputName .nil))))
  rw [Figure.warnings, Figure.warnings, texts]

end Cleared

/-- Empty texts and lists make no difference to compilation and what it reports. -/
theorem compile_of_cleared (cleared : figure.Cleared other) : other.compile = figure.compile :=
  (cleared.alike.compile cleared.warnings cleared.notes).symm

/-- Every kind of setting is empty somewhere. -/
def hollow : Figure where
  title := some ""
  xAxis := { label := some "" }
  yAxis := { label := some "" }
  outputName := some ""
  twin := some
    { yAxis := { label := some "" }
      series := [.matrix { values := [[1.0]], label := some "" }] }
  series :=
    [.line { x := some [], y := some [1.0], label := some "" },
      .errorBand { x := some [1.0], y := some [], errors := some [0.5], errorLabel := some "" },
      .bar { values := some [], label := some "" }]

/-- The bars keep their empty label, so that not everything is taken out. -/
def sparse : Figure where
  twin := some { series := [.matrix { values := [[1.0]] }] }
  series :=
    [.line { y := some [1.0] }, .errorBand { x := some [1.0], errors := some [0.5] },
      .bar { label := some "" }]

theorem sparse_compiles_like_hollow :
    hollow.Cleared sparse ∧ sparse.compile = hollow.compile ∧
      hollow.compile.result = .error (.series .noHeights) := by
  have cleared : hollow.Cleared sparse :=
    .intro .removed .removed .removed .removed
      (.some (.intro .removed (.cons (.matrix .removed) .nil)))
      (.cons (.line .removed (.kept _) .removed)
        (.cons (.errorBand (.kept _) .removed .removed (.kept _))
          (.cons (.bar .removed (.kept _)) .nil)))
  exact ⟨cleared, compile_of_cleared cleared, rfl⟩

end Figure

end FigureScript
