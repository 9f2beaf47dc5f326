import FigureScript.Proofs.Figure.Labels
import FigureScript.Proofs.Series.Painting

namespace FigureScript

open Lexer

/-! # Colors of a figure

Colors are taken off the palette where series are drawn and nowhere else. Main statement: a script
takes one color for each series that asks for one, in drawing order, and every series is painted
with its own.
-/

namespace Series

/-- The draw calls of several series with their colors, each taken where the earlier
series left the palette. -/
def allPaints (earlier : Nat) : List Series → List (String × Paint)
  | [] => []
  | series :: rest => series.paints earlier ++ allPaints (earlier + series.taken) rest

theorem sum_taken (all : List Series) : (all.map taken).sum = all.countP usesPalette := by
  induction all with
  | nil => rfl
  | cons series rest ih =>
      rw [List.map_cons, List.sum_cons, ih, List.countP_cons, Nat.add_comm, taken]

theorem flatMap_replicate_taken (all : List Series) :
    (all.flatMap fun series => List.replicate series.taken series) = all.filter usesPalette := by
  induction all with
  | nil => rfl
  | cons series rest ih =>
      rw [List.flatMap_cons, ih, List.filter_cons, taken]
      cases series.usesPalette <;> rfl

end Series

namespace Figure

variable {figure : Figure} {layout : Layout}

/-! ## The lines of a script -/

/-- The palette is made before the first series, and no color is taken off it there. -/
theorem paletteCalls_preamble (figure : Figure) :
    ∀ statement ∈ figure.preamble, paletteCalls statement.tokens = 0 := by
  have fixed : ∀ statement ∈ imports, paletteCalls statement.tokens = 0 := by decide
  have style : ∀ statement ∈ styleStatements figure.style, paletteCalls statement.tokens = 0 := by
    unfold styleStatements
    split
    · simp only [List.forall_mem_cons]
      exact ⟨rfl, rfl, rfl, rfl, by simp⟩
    · simp
  simp only [preamble, List.forall_mem_append]
  refine ⟨⟨fixed, style⟩, ?_⟩
  rw [List.forall_mem_singleton]
  rfl

theorem map_taken_steps (figure : Figure) (layout : Layout) :
    (figure.steps layout).map (fun step => step.series.taken) =
      figure.allSeries.map Series.taken := by
  rw [← figure.series_steps, List.map_map]
  rfl

section

variable (valid : figure.Valid layout) (unquoted : ∀ text ∈ figure.texts, '\'' ∉ text.toList)

include valid unquoted

/-- Nothing is taken off the palette outside the drawing phase. -/
theorem paletteCallsOf_around :
    paletteCallsOf (figure.preamble ++ figure.axesCreation layout) = 0 ∧
      paletteCallsOf (figure.legendStatements layout ++ figure.configuration layout ++
        figure.postamble) = 0 := by
  have legible := legible_written valid unquoted
  rw [written_eq] at legible
  simp only [List.forall_mem_append] at legible
  obtain ⟨⟨⟨opening, creation⟩, _⟩, ⟨legends, settings⟩, closing⟩ := legible
  have opened : paletteCallsOf figure.preamble = 0 := by
    rw [paletteCallsOf_eq opening, List.sum_eq_zero_iff_forall_eq_nat, List.forall_mem_map]
    exact paletteCalls_preamble figure
  simp only [paletteCallsOf_append, opened,
    confined_axesCreation.paletteCallsOf_eq_zero (by decide) creation,
    confined_legendStatements.paletteCallsOf_eq_zero (by decide) legends,
    confined_configuration.paletteCallsOf_eq_zero (by decide) settings,
    confined_postamble.paletteCallsOf_eq_zero (by decide) closing, and_self]

/-- A step takes a color off the palette only where it draws. -/
theorem paletteCallsOf_step {step : Step} (member : step ∈ figure.steps layout) :
    paletteCallsOf step.setup = 0 ∧ paletteCallsOf step.fragment = step.series.taken := by
  have legible : ∀ statement ∈ step.statements, statement.Legible .plain := by
    intro statement inside
    refine legible_written valid unquoted statement ?_
    rw [written_eq]
    exact List.mem_append_left _ (List.mem_append_right _
      (List.mem_flatMap.mpr ⟨step, member, inside⟩))
  obtain ⟨setup, fragment⟩ := List.forall_mem_append.mp legible
  refine ⟨(confined_setup member).paletteCallsOf_eq_zero (by decide) setup, ?_⟩
  rw [paletteCallsOf_eq fragment]
  exact (fragment_of_step valid member).takes

theorem paletteCallsOf_statements {step : Step} (member : step ∈ figure.steps layout) :
    paletteCallsOf step.statements = step.series.taken := by
  obtain ⟨setup, fragment⟩ := paletteCallsOf_step valid unquoted member
  rw [Step.statements, paletteCallsOf_append, setup, fragment, Nat.zero_add]

theorem paletteCallsOf_written :
    paletteCallsOf (figure.written layout) = figure.allSeries.countP Series.usesPalette := by
  obtain ⟨before, after⟩ := paletteCallsOf_around valid unquoted
  have each : (figure.steps layout).map (fun step => paletteCallsOf step.statements) =
      (figure.steps layout).map fun step => step.series.taken :=
    List.map_congr_left fun step member => paletteCallsOf_statements valid unquoted member
  rw [written_eq, paletteCallsOf_append, paletteCallsOf_append, before, after,
    paletteCallsOf_flatMap, each, map_taken_steps, Series.sum_taken, Nat.zero_add, Nat.add_zero]

/-- The series in whose lines the colors are taken, one after the other, are those that ask for
one. -/
theorem owners_written :
    ((figure.steps layout).flatMap fun step =>
        List.replicate (paletteCallsOf step.statements) step.series) =
      figure.allSeries.filter Series.usesPalette := by
  have each : ∀ step ∈ figure.steps layout,
      List.replicate (paletteCallsOf step.statements) step.series =
        List.replicate step.series.taken step.series := by
    intro step member
    rw [paletteCallsOf_statements valid unquoted member]
  rw [← Series.flatMap_replicate_taken, ← figure.series_steps, List.flatMap_map, List.flatMap_def,
    List.map_congr_left each, ← List.flatMap_def]

end

/-! ## Running a script -/

/-- Drawing takes one step after the other, each with the colors that the earlier ones left. -/
theorem run_steps {steps : List Step}
    (drawn : ∀ step ∈ steps, Series.Fragment step.axes step.series step.fragment)
    (idle : ∀ step ∈ steps, ∀ brush : Brush, brush.run step.setup = brush) (brush : Brush) :
    ∃ kept, brush.run (steps.flatMap Step.statements) =
      ⟨brush.taken + (steps.map fun step => step.series.taken).sum, kept,
        brush.painted ++ Series.allPaints brush.taken (steps.map Step.series)⟩ := by
  induction steps generalizing brush with
  | nil => exact ⟨brush.kept, by simp [Series.allPaints]⟩
  | cons step rest ih =>
      obtain ⟨first, others⟩ := List.forall_mem_cons.mp drawn
      obtain ⟨still, quiet⟩ := List.forall_mem_cons.mp idle
      obtain ⟨_, here⟩ := first.run_eq brush
      obtain ⟨kept, behind⟩ := ih others quiet (brush.run step.fragment)
      refine ⟨kept, ?_⟩
      rw [List.flatMap_cons, Brush.run_append, Step.statements, Brush.run_append, still brush,
        behind, here]
      simp [Series.allPaints, Nat.add_assoc]

theorem run_written (valid : figure.Valid layout) :
    ∃ kept, Brush.run {} (figure.written layout) =
      ⟨figure.allSeries.countP Series.usesPalette, kept,
        Series.allPaints 0 figure.allSeries⟩ := by
  have opening : ∀ brush : Brush, brush.run figure.preamble = brush :=
    confined_preamble.run_eq (by decide)
  have creation : ∀ brush : Brush, brush.run (figure.axesCreation layout) = brush :=
    confined_axesCreation.run_eq (by decide)
  have legends : ∀ brush : Brush, brush.run (figure.legendStatements layout) = brush :=
    confined_legendStatements.run_eq (by decide)
  have settings : ∀ brush : Brush, brush.run (figure.configuration layout) = brush :=
    confined_configuration.run_eq (by decide)
  have closing : ∀ brush : Brush, brush.run figure.postamble = brush :=
    confined_postamble.run_eq (by decide)
  obtain ⟨kept, drawn⟩ := run_steps (fun step member => fragment_of_step valid member)
    (fun step member brush => (confined_setup member).run_eq (by decide) brush) {}
  refine ⟨kept, ?_⟩
  simp only [written_eq, Brush.run_append, opening, creation, drawn, legends, settings, closing,
    map_taken_steps, Series.sum_taken, series_steps, Nat.zero_add, List.nil_append]

/-- A script reads `next(palette)` outside its literals as often as there are series that ask for a
color of the palette: in the lines of these series, in drawing order, and nowhere else.
Run for its colors, it paints every series with the color that it asks for: each takes the next one
off the palette, and both calls of an error band are given the one that the band takes. -/
theorem compile_takes_colors_in_order {script : String}
    (compiled : figure.compile.result = .ok script)
    (unquoted : ∀ text ∈ figure.texts, '\'' ∉ text.toList) :
    ∃ layout statements before steps after, figure.Emits script layout statements ∧
      figure.Draws layout steps ∧
      statements = before ++ steps.flatMap Step.statements ++ after ∧
      paletteCalls (Lexer.tokens .plain script) = figure.allSeries.countP Series.usesPalette ∧
      paletteCallsOf before = 0 ∧ paletteCallsOf after = 0 ∧
      (∀ step ∈ steps, paletteCallsOf step.setup = 0 ∧
        paletteCallsOf step.fragment = if step.series.usesPalette then 1 else 0) ∧
      (steps.flatMap fun step =>
          List.replicate (paletteCallsOf step.statements) step.series) =
        figure.allSeries.filter Series.usesPalette ∧
      ∃ kept, Brush.run {} statements =
        ⟨figure.allSeries.countP Series.usesPalette, kept,
          Series.allPaints 0 figure.allSeries⟩ := by
  obtain ⟨layout, valid, emits⟩ := emits_written compiled
  obtain ⟨present, visible⟩ := lines_written figure layout
  obtain ⟨before, after⟩ := paletteCallsOf_around valid unquoted
  refine ⟨layout, _, _, figure.steps layout, _, emits, draws_steps valid, written_eq figure layout,
    ?calls, before, after, ?steps, owners_written valid unquoted, run_written valid⟩
  case calls =>
    rw [← emits.rendered, paletteCalls_render (legible_written valid unquoted) present visible,
      paletteCallsOf_written valid unquoted]
  case steps =>
    exact fun step member => paletteCallsOf_step valid unquoted member

/-- Palette colors on both axes, around a named one and none, and a label that spells the call. -/
def palettes : Figure where
  series :=
    [.line { x := some [1.0], label := some "next(palette)", color := some .palette },
      .bar { values := some [2.0], color := some (.named "r") },
      .errorBand { x := some [1.0], errors := some [0.5], color := some .palette },
      .line { y := some [3.0] }]
  twin := some { series := [.scatter { y := some [4.0], color := some .palette }] }

theorem palettes_takes_colors_in_order :
    ∃ script, palettes.compile.result = .ok script ∧
      (∀ text ∈ palettes.texts, '\'' ∉ text.toList) ∧
      paletteCalls (Lexer.tokens .plain script) = 3 ∧
      ∃ layout statements, palettes.Emits script layout statements ∧
        (Brush.run {} statements).taken = 3 ∧
        (Brush.run {} statements).painted =
          [("plot", .taken 0), ("bar", .named "r"), ("plot", .taken 1),
            ("fill_between", .taken 1), ("plot", .unset), ("scatter", .taken 2)] := by
  have compiled : palettes.compile.result =
      .ok (Script.ofStatements (palettes.written .twin)).render :=
    compile_eq_ok_iff.mpr ⟨.twin, validate_eq_ok_iff.mp rfl, rfl⟩
  have unquoted : ∀ text ∈ palettes.texts, '\'' ∉ text.toList := by decide
  obtain ⟨layout, statements, _, _, _, emits, _, _, calls, _, _, _, _, kept, painted⟩ :=
    compile_takes_colors_in_order compiled unquoted
  refine ⟨_, compiled, unquoted, calls, layout, statements, emits, ?_, ?_⟩
  · rw [painted]
    rfl
  · rw [painted]
    rfl

end Figure

end FigureScript
