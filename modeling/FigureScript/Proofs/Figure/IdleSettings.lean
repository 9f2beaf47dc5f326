import FigureScript.Proofs.Figure.Alike

namespace FigureScript

/-! # Settings that do not apply

Main statement: a setting that has nothing to act on can be changed at will, and the figure compiles
to the same script or fails with the same error.
-/

/-- Another cell, unless cells count, and another color map for a Hinton diagram. -/
inductive Series.Adjusted (placed : Bool) : Series → Series → Prop
  | line {trace : Trace} {cell : Cell} (cells : placed = true → cell = trace.cell) :
      Adjusted placed (.line trace) (.line { trace with cell })
  | scatter {trace : Trace} {cell : Cell} (cells : placed = true → cell = trace.cell) :
      Adjusted placed (.scatter trace) (.scatter { trace with cell })
  | bar {bars : Bars} {cell : Cell} (cells : placed = true → cell = bars.cell) :
      Adjusted placed (.bar bars) (.bar { bars with cell })
  | errorBand {band : Band} {cell : Cell} (cells : placed = true → cell = band.cell) :
      Adjusted placed (.errorBand band) (.errorBand { band with cell })
  | matrix {matrix : Matrix} {cell : Cell} {colorMap : Option String}
      (cells : placed = true → cell = matrix.cell)
      (image : matrix.hinton = false → colorMap = matrix.colorMap) :
      Adjusted placed (.matrix matrix) (.matrix { matrix with cell, colorMap })

namespace Series.Adjusted

variable {placed : Bool} {series other : Series}

theorem statements (adjusted : series.Adjusted placed other) (axes : Axes) :
    series.statements axes = other.statements axes := by
  cases adjusted with
  | line | scatter | bar | errorBand => rfl
  | @matrix matrix cell colorMap _ image =>
      have display : matrix.display axes = { matrix with cell, colorMap }.display axes := by
        cases hinton : matrix.hinton with
        | true => simp only [Matrix.display, hinton, if_true]
        | false => simp only [Matrix.display, hinton, image hinton]
      simp only [Series.statements, Matrix.draw, display]
      rfl

theorem alike (adjusted : series.Adjusted placed other) : series.Alike placed other where
  statements := adjusted.statements
  usesPalette := by
    cases adjusted with
    | line | scatter | bar | errorBand | matrix => rfl
  hasLegendEntry := by
    cases adjusted with
    | line | scatter | bar | errorBand | matrix => rfl
  label := by
    cases adjusted with
    | line | scatter | bar | errorBand | matrix => rfl
  cell known := by
    cases adjusted with
    | line cells | scatter cells | bar cells | errorBand cells | matrix cells =>
        exact (cells known).symm

end Series.Adjusted

/-- Series on a second axis have no cell of their own. -/
inductive TwinAxis.Adjusted (twin : TwinAxis) : TwinAxis → Prop
  | intro {series : List Series}
      (adjustedSeries : List.Forall₂ (Series.Adjusted false) twin.series series) :
      Adjusted twin { twin with series }

namespace Figure

/-- Nothing changes but settings that do not apply: flags of a style that is switched off, the
legend of a figure without legend entries, waiting for a window that is not opened, and what
`Series.Adjusted` names, cells counting where there are subplots. -/
inductive Adjusted (figure : Figure) : Figure → Prop
  | intro {style : Style} {legend : Legend} {tight block : Bool} {twin : Option TwinAxis}
      {series : List Series}
      (switch : style.styling = figure.style.styling)
      (flags : figure.style.styling = true → style = figure.style)
      (labelled : figure.hasLabels = true → legend = figure.legend ∧ tight = figure.tight)
      (shown : figure.showWindow = true → block = figure.block)
      (adjustedTwin : Option.Rel TwinAxis.Adjusted figure.twin twin)
      (adjustedSeries :
        List.Forall₂ (Series.Adjusted figure.subplots.isSome) figure.series series) :
      Adjusted figure { figure with style, legend, tight, block, twin, series }

variable {figure other : Figure}

theorem Adjusted.alike (adjusted : figure.Adjusted other) : figure.Alike other := by
  cases adjusted with
  | intro switch flags labelled shown adjustedTwin adjustedSeries =>
      have twins : ∀ twin second : TwinAxis, twin.Adjusted second → twin.Alike second := by
        intro twin second adjusted
        cases adjusted with
        | intro series => exact ⟨⟨rfl, rfl⟩, series.imp fun _ _ same => same.alike⟩
      exact
        { title := rfl
          xAxis := ⟨rfl, rfl⟩
          yAxis := ⟨rfl, rfl⟩
          twin := Related.option_imp adjustedTwin twins
          subplots := rfl
          series := adjustedSeries.imp fun _ _ same => same.alike
          styling := switch.symm
          token := fun styling => by rw [flags styling]
          legend := fun labels => (labelled labels).1.symm
          tight := fun labels => (labelled labels).2.symm
          outputPath := rfl
          size := rfl
          tickLabelSize := rfl
          showWindow := rfl
          block := fun window => (shown window).symm }

/-- Settings that do not apply make no difference to the script, nor to the error. -/
theorem result_compile_of_adjusted (adjusted : figure.Adjusted other) :
    other.compile.result = figure.compile.result :=
  adjusted.alike.result_compile.symm

/-- Without styling, legend entries, window and subplots, and with a Hinton diagram. -/
def bare : Figure where
  style := { styling := false }
  showWindow := false
  twin := some { series := [.bar { values := some [1.0], color := some .blue }] }
  series := [.line { y := some [1.0] }, .matrix { values := [[1.0]], hinton := true }]

/-- The same figure with every setting changed that does not apply to it. -/
def decorated : Figure where
  style := { styling := false, dark := false, grid := false }
  legend := { position := .center, fontSize := 8.0 }
  tight := true
  showWindow := false
  block := false
  twin := some { series :=
    [.bar { values := some [1.0], color := some .blue, cell := { row := 1 } }] }
  series :=
    [.line { y := some [1.0], cell := { row := 2, column := 3 } },
      .matrix { values := [[1.0]], hinton := true, colorMap := some "hot" }]

theorem decorated_compiles_like_bare :
    bare.Adjusted decorated ∧ decorated.compile.result = bare.compile.result ∧
      ∃ script, bare.compile.result = .ok script := by
  have adjusted : bare.Adjusted decorated :=
    .intro rfl nofun nofun nofun
      (.some (.intro (.cons (.bar nofun) .nil)))
      (.cons (.line nofun) (.cons (.matrix nofun nofun) .nil))
  have validated : bare.validate = .ok .twin := rfl
  exact ⟨adjusted, result_compile_of_adjusted adjusted,
    _, compile_eq_ok_iff.mpr ⟨_, validate_eq_ok_iff.mp validated, rfl⟩⟩

end Figure

end FigureScript
