import FigureScript.Proofs.Figure.Vocabulary

namespace FigureScript.Figure

open Lexer

/-! # Scripts bind names before they read them

Every phase of a script is in scope behind the phases before it.
-/

variable {figure : Figure} {layout : Layout} {bound larger : List String}

/-- The names in scope behind the creation of the axes. -/
structure Prepared (figure : Figure) (layout : Layout) (bound : List String) : Prop where
  lines : "lines" ∈ bound
  palette : figure.style.styling = true → "palette" ∈ bound
  fig : "fig" ∈ bound
  cells : layout.isGrid = true → "axs" ∈ bound
  primary : layout.isGrid = false → "ax" ∈ bound
  twin : layout = .twin → "ax2" ∈ bound

theorem Prepared.mono (prepared : Prepared figure layout bound) (more : bound ⊆ larger) :
    Prepared figure layout larger where
  lines := more prepared.lines
  palette styling := more (prepared.palette styling)
  fig := more prepared.fig
  cells isGrid := more (prepared.cells isGrid)
  primary plain := more (prepared.primary plain)
  twin same := more (prepared.twin same)

theorem inScope_preamble : Scoped [] figure.preamble := by
  have fixed : Scoped [] imports := by decide
  have style : Scoped (imports.flatMap Statement.binds ++ []) (styleStatements figure.style) := by
    unfold styleStatements
    split
    · refine .bind (.use (.use (.assign .nil ?_ (by decide)) ?_) ?_) rfl <;>
        simp +decide [Known, imports]
    · exact .nil
  have lines : Scoped ((imports ++ styleStatements figure.style).flatMap Statement.binds ++ [])
      [.assign ["lines"] (.list [])] := Scoped.assign .nil (by simp) (by decide)
  exact (fixed.append style).append lines

theorem inScope_axesCreation : Scoped bound (figure.axesCreation layout) := by
  have size : ∀ {names : List String}, "fig" ∈ names → Scoped names figure.sizeStatements := by
    intro names fig
    unfold sizeStatements
    split
    · exact .use .nil (by simp +decide [Known, fig])
    · exact .nil
  cases layout with
  | single =>
      refine .assign (size (by simp)) ?_ (by decide)
      simp +decide [Known]
  | twin =>
      refine .assign (.assign (size (by simp)) ?_ (by decide)) ?_ (by decide) <;>
        simp +decide [Known]
  | grid shape =>
      refine .assign (size (by simp)) ?_ (by decide)
      simp +decide [Known]

theorem prepared_of_creation (figure : Figure) (layout : Layout) :
    Prepared figure layout
      ((figure.preamble ++ figure.axesCreation layout).flatMap Statement.binds) := by
  constructor
  · simp +decide [preamble]
  · intro styling
    simp +decide [preamble, styleStatements, styling]
  · cases layout <;> simp +decide [axesCreation, singleAxes, Grid.creation]
  · intro isGrid
    cases layout <;> simp +decide [axesCreation, Grid.creation, Layout.isGrid] at isGrid ⊢
  · intro plain
    cases layout <;> simp +decide [axesCreation, singleAxes, Layout.isGrid] at plain ⊢
  · rintro rfl
    simp +decide [axesCreation]

/-- In a grid the setup of a step binds the axes that its statements use. -/
theorem inScope_step (valid : figure.Valid layout) (prepared : Prepared figure layout bound)
    {step : Step} (member : step ∈ figure.steps layout) : Scoped bound step.statements := by
  have drawn := series_mem_of_step member
  have fragment : ∀ names : List String, bound ⊆ names → step.axes.variableName ∈ names →
      Scoped names step.fragment := by
    intro names more onAxes
    have styled := fun uses => more (prepared.palette (valid.styled _ drawn uses))
    exact (Series.Fragment.of_check (valid.checked _ drawn) step.axes).inScope
      (more prepared.lines) onAxes styled
  rw [Step.statements]
  rcases step_cases member with ⟨_, axes, earlier, setup⟩ | ⟨twin, axes, setup⟩
  · cases layout with
    | grid shape =>
        -- The settings of the cell come before the fragment and may use the new binding as well.
        have configured : Scoped ("ax" :: bound) (if step.series.cell ∈ earlier then []
            else figure.cellStatements step.series.cell) := by
          split
          · exact .nil
          · exact (confined_cellStatements figure step.series.cell).inScope ["ax"] (by simp)
              (by decide)
        have onAxes : step.axes.variableName ∈ "ax" :: bound := by
          simp [axes, Layout.primaryAxes, Axes.variableName]
        rw [setup, bindCell_of_grid, List.cons_append]
        refine .assign (configured.join (fragment _ (List.subset_cons_self _ _) onAxes)) ?_
          (by decide)
        exact uses_selector shape step.series.cell fun _ => prepared.cells rfl
    | single =>
        rw [setup, bindCell_of_plain rfl]
        exact fragment bound (fun _ known => known) (axes ▸ prepared.primary rfl)
    | twin =>
        rw [setup, bindCell_of_plain rfl]
        exact fragment bound (fun _ known => known) (axes ▸ prepared.primary rfl)
  · have onAxes := prepared.twin (valid.layout_eq_twin_of_mem twin)
    rw [setup]
    exact fragment bound (fun _ known => known) (axes ▸ onAxes)

theorem inScope_legendStatement {axes : Expr} (sources : List Expr) (legend : Legend)
    (onAxes : axes.Uses (Known bound) fun _ => True)
    (read : ∀ item ∈ sources, item.Uses (Known bound) fun _ => True) :
    Scoped bound [legendStatement axes (sources ++ legend.arguments)] := by
  refine .assign .nil ?_ (by decide)
  simpa +decide [Legend.arguments, onAxes, Known, or_imp, forall_and] using read

theorem inScope_legendStatements (prepared : Prepared figure layout bound) :
    Scoped bound (figure.legendStatements layout) := by
  unfold legendStatements
  split
  · cases layout with
    | single =>
        exact inScope_legendStatement [] figure.legend (fun _ => prepared.primary rfl) (by simp)
    | twin =>
        have onAxes : "ax2" ∈ ["labels"] ++ bound := by simp [prepared.twin rfl]
        refine .assign ?legend ?labels (by decide)
        case labels => simp +decide [Known, prepared.lines]
        case legend =>
          refine inScope_legendStatement [.name "lines", .name "labels"] figure.legend
            (fun _ => onAxes) ?_
          simp +decide [Known, prepared.lines]
    | grid shape =>
        simp only [List.map_eq_flatMap]
        refine .flatMap fun cell _ => inScope_legendStatement [] figure.legend ?_ (by simp)
        exact uses_selector shape cell fun _ => prepared.cells rfl
  · exact .nil

theorem binds_legendStatements (valid : figure.Valid layout) (labels : figure.hasLabels = true) :
    "lgd" ∈ (figure.legendStatements layout).flatMap Statement.binds := by
  simp only [legendStatements, if_pos labels]
  cases layout with
  | single => simp +decide [legendStatement]
  | twin => simp +decide [legendStatement]
  | grid shape =>
      obtain ⟨cell, member⟩ := exists_legendCell valid rfl labels
      refine List.mem_flatMap.mpr ⟨_, List.mem_map_of_mem member, ?_⟩
      simp +decide [legendStatement]

theorem inScope_configuration (valid : figure.Valid layout)
    (prepared : Prepared figure layout bound) : Scoped bound (figure.configuration layout) := by
  unfold configuration
  cases grid : layout.isGrid with
  | true => exact confined_gridTexts.inScope ["fig"] (by simp [prepared.fig]) (by decide)
  | false =>
      have ax := prepared.primary grid
      cases twin : figure.twin with
      | none =>
          have texts : Confined axesNames figure.Quotes figure.axesTexts :=
            confined_axesTexts (List.Subset.refl _) (by simp [twin])
          exact texts.inScope ["ax"] (by simp [ax]) (by decide)
      | some axis =>
          have ax2 := prepared.twin (valid.layout_eq_twin twin)
          have texts : Confined ("ax2" :: axesNames) figure.Quotes figure.axesTexts :=
            confined_axesTexts (List.subset_cons_self _ _) (by simp)
          exact texts.inScope ["ax", "ax2"] (by simp [ax, ax2]) (by decide)

theorem inScope_postamble (fig : "fig" ∈ bound) (legend : figure.hasLabels = true → "lgd" ∈ bound) :
    Scoped bound figure.postamble := by
  cases labels : figure.hasLabels with
  | true =>
      exact confined_postamble.inScope ["lgd", "fig"] (by simp [fig, legend labels]) (by decide)
  | false =>
      have unexplained : Confined savingNames figure.Quotes figure.postamble :=
        confined_postamble_of_legend (List.Subset.refl _) (by simp [labels])
      exact unexplained.inScope ["fig"] (by simp [fig]) (by decide)

/-- The whole script of a valid figure is in scope from its first statement on. -/
theorem inScope_written (valid : figure.Valid layout) : Scoped [] (figure.written layout) := by
  have grow : ∀ front more : List Statement,
      front.flatMap Statement.binds ++ [] ⊆ (front ++ more).flatMap Statement.binds ++ [] := by
    intro front more
    rw [List.flatMap_append, List.append_nil, List.append_nil]
    exact List.subset_append_left _ _
  have created := (prepared_of_creation figure layout).mono (List.subset_append_left _ [])
  have drawn := created.mono (grow _ ((figure.steps layout).flatMap Step.statements))
  have explained := drawn.mono (grow _ (figure.legendStatements layout))
  have configured := explained.mono (grow _ (figure.configuration layout))
  have drawing : Scoped _ ((figure.steps layout).flatMap Step.statements) :=
    .flatMap fun step member => inScope_step valid created member
  refine ((((inScope_preamble.append inScope_axesCreation).append drawing).append
    (inScope_legendStatements drawn)).append (inScope_configuration valid explained)).append
    (inScope_postamble configured.fig fun labels => ?_)
  have lgd := binds_legendStatements valid labels
  simp only [List.flatMap_append, List.mem_append]
  exact .inl (.inl (.inr lgd))

/-- Whatever the figure, as long as no text ends its own literal, the script reads its names only
behind a line that binds them, and what a fragment reads as `x`, `y`, `e` or `c` was bound by the
same fragment. -/
theorem compile_binds_before_reading {script : String}
    (compiled : figure.compile.result = .ok script)
    (unquoted : ∀ text ∈ figure.texts, '\'' ∉ text.toList) :
    ∃ layout statements, figure.Emits script layout statements ∧
      BoundBeforeRead generatedNames (Script.ofStatements statements).lines ∧
      ∃ steps, figure.Draws layout steps ∧
        ∀ step ∈ steps,
          BoundBeforeRead ["x", "y", "e", "c"] (Script.ofStatements step.fragment).lines := by
  obtain ⟨layout, valid, emits⟩ := emits_written compiled
  have legible := legible_written valid unquoted
  refine ⟨layout, _, emits, ?_, _, draws_steps valid, ?_⟩
  · exact (inScope_written valid).boundBeforeRead legible fun name member => ⟨member, by simp⟩
  · intro step member
    -- Nothing that another fragment binds is among the names in scope here.
    let outside := ["lines", "palette", step.axes.variableName]
    have drawn := Series.Fragment.of_check (valid.checked _ (series_mem_of_step member)) step.axes
    have inScope : Scoped outside step.fragment :=
      drawn.inScope (by simp [outside]) (by simp [outside]) (by simp [outside])
    refine inScope.boundBeforeRead (fun statement inside => ?_) ?_
    · exact legible_fragment valid unquoted member statement inside
    · rcases step.axes.variableName_cases with same | same <;> simp only [outside, same] <;> decide

/-- A labelled band and, against a second axis, points; both take their color from the palette. -/
def bandAndPoints : Figure where
  series :=
    [.errorBand
      { x := some [1.0], errors := some [2.0], label := some "a", color := some .palette }]
  twin := some { series := [.scatter { y := some [3.0], color := some .palette }] }

theorem bandAndPoints_binds_before_reading :
    ∃ script, bandAndPoints.compile.result = .ok script ∧
      (∀ text ∈ bandAndPoints.texts, '\'' ∉ text.toList) ∧
      ∃ layout statements, bandAndPoints.Emits script layout statements ∧
        BoundBeforeRead generatedNames (Script.ofStatements statements).lines := by
  have compiled : bandAndPoints.compile.result =
      .ok (Script.ofStatements (bandAndPoints.written .twin)).render :=
    compile_eq_ok_iff.mpr ⟨.twin, validate_eq_ok_iff.mp rfl, rfl⟩
  have unquoted : ∀ text ∈ bandAndPoints.texts, '\'' ∉ text.toList := by decide
  obtain ⟨layout, statements, emits, bound, _⟩ := compile_binds_before_reading compiled unquoted
  exact ⟨_, compiled, unquoted, layout, statements, emits, bound⟩

end FigureScript.Figure
