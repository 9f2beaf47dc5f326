import FigureScript.Proofs.Figure.Compilation

namespace FigureScript.Figure

/-! # Adding a series

A series that is added to a figure without subplots is drawn behind the other primary series. The rest
of the script knows of it only through the question whether any series has a legend entry.
-/

variable {figure : Figure} {layout : Layout} {series : Series}

theorem contains_of_plain (plain : layout.isGrid = false) (cell : Cell) : layout.contains cell := by
  cases layout with
  | single | twin => trivial
  | grid shape => contradiction

theorem mem_allSeries_add {one : Series} :
    one ∈ (figure.add series).allSeries ↔ one ∈ figure.allSeries ∨ one = series := by
  simp only [allSeries, series_add, twinSeries_add, List.mem_append, List.mem_singleton]
  exact or_right_comm

theorem Valid.add (valid : figure.Valid layout) (checked : series.check = .ok ())
    (styled : series.usesPalette = true → figure.style.styling = true)
    (inside : layout.contains series.cell) : (figure.add series).Valid layout where
  arranged := valid.arranged
  checked one member := by
    rcases mem_allSeries_add.mp member with old | rfl
    · exact valid.checked one old
    · exact checked
  styled one member := by
    rcases mem_allSeries_add.mp member with old | rfl
    · exact valid.styled one old
    · exact styled
  inside one member := by
    rcases List.mem_append.mp member with old | new
    · exact valid.inside one old
    · exact List.mem_singleton.mp new ▸ inside

theorem hasLabels_add :
    (figure.add series).hasLabels = (figure.hasLabels || series.hasLegendEntry) := by
  rw [Bool.eq_iff_iff, Bool.or_eq_true]
  simp only [hasLabels, List.any_eq_true, mem_allSeries_add]
  constructor
  · rintro ⟨one, old | rfl, entry⟩
    · exact .inl ⟨one, old, entry⟩
    · exact .inr entry
  · rintro (⟨one, old, entry⟩ | entry)
    · exact ⟨one, .inl old, entry⟩
    · exact ⟨series, .inr rfl, entry⟩

/-! ## The parts of a script without a grid -/

/-- The script up to the last fragment of a primary series. -/
def front (figure : Figure) (layout : Layout) : List Statement :=
  figure.preamble ++ figure.axesCreation layout ++
    figure.series.flatMap fun one => one.drawn .primary

/-- What follows the primary series. -/
def back (figure : Figure) (layout : Layout) : List Statement :=
  (figure.twinSeries.flatMap fun one => one.drawn .twin) ++ figure.legendStatements layout ++
    figure.configuration layout ++ figure.postamble

theorem written_of_plain (plain : layout.isGrid = false) :
    figure.written layout = figure.front layout ++ figure.back layout := by
  simp only [written, flatMap_steps_of_plain plain, front, back, List.append_assoc]

theorem front_add :
    (figure.add series).front layout = figure.front layout ++ series.drawn .primary := by
  simp only [front, series_add, List.flatMap_append, List.flatMap_singleton, ← List.append_assoc]
  rfl

/-- Saving with further arguments, or without. -/
def saveWith (figure : Figure) (arguments : List Expr) : Statement :=
  .evaluate (.method (.name "fig") "savefig"
    ([.quoted figure.outputPath, .named "format" (.quoted "pdf")] ++ arguments))

/-- The arguments that keep a legend in the saved image. -/
def legendArguments (figure : Figure) : List Expr :=
  .named "bbox_extra_artists" (.single (.name "lgd")) ::
    if figure.tight then [.named "bbox_inches" (.quoted "tight")] else []

theorem saveStatement_eq (figure : Figure) :
    figure.saveStatement =
      figure.saveWith (if figure.hasLabels then figure.legendArguments else []) := rfl

/-- Opening a window, where that was asked for. -/
def showStatements (figure : Figure) : List Statement :=
  if figure.showWindow then
    [.evaluate (.call (.name "show") [.named "block" (.truth figure.block)])]
  else []

theorem back_of_unlabelled (unlabelled : figure.hasLabels = false) :
    figure.back layout =
      (figure.twinSeries.flatMap fun one => one.drawn .twin) ++ figure.configuration layout ++
        figure.saveWith [] :: figure.showStatements := by
  simp only [back, legendStatements, postamble, saveStatement_eq, unlabelled, Bool.false_eq_true,
    if_false, List.append_nil, showStatements]

theorem back_of_labelled (labels : figure.hasLabels = true) :
    figure.back layout =
      (figure.twinSeries.flatMap fun one => one.drawn .twin) ++ figure.legendStatements layout ++
        figure.configuration layout ++
        figure.saveWith figure.legendArguments :: figure.showStatements := by
  simp only [back, postamble, saveStatement_eq, labels, if_true, showStatements]

/-- Without a grid the legend statements are the same for all figures with legend entries. -/
theorem legendStatements_add (plain : layout.isGrid = false)
    (same : (figure.add series).hasLabels = figure.hasLabels) :
    (figure.add series).legendStatements layout = figure.legendStatements layout := by
  simp only [legendStatements, same]
  cases layout with
  | single | twin => rfl
  | grid shape => contradiction

theorem back_add (plain : layout.isGrid = false)
    (same : (figure.add series).hasLabels = figure.hasLabels) :
    (figure.add series).back layout = figure.back layout := by
  have postamble : (figure.add series).postamble = figure.postamble := by
    simp only [Figure.postamble, saveStatement, same]
    rfl
  simp only [back, legendStatements_add plain same, postamble]
  rfl

theorem legendStatements_ne_nil (plain : layout.isGrid = false) (labels : figure.hasLabels = true) :
    figure.legendStatements layout ≠ [] := by
  simp only [legendStatements, labels, if_true]
  cases layout with
  | single | twin => simp
  | grid shape => contradiction

/-- A sound series added to a figure without subplots leaves the script of the figure as it is up to
the last primary fragment, and puts its own one there. What follows stays the same, too, unless the
series brings the first legend entry; then the legend statements come in behind the drawing, the saved
image refers to the legend, and the rest is still the same. -/
theorem compile_add_local {script : String} (compiled : figure.compile.result = .ok script)
    (plain : figure.subplots = none) (checked : series.check = .ok ())
    (styled : series.usesPalette = true → figure.style.styling = true) :
    ∃ longer layout primary drawn twin rest after,
      (figure.add series).compile.result = .ok longer ∧
      figure.series.mapM (fun one => fragment one .primary) = .ok primary ∧
      fragment series .primary = .ok drawn ∧
      figure.twinSeries.mapM (fun one => fragment one .twin) = .ok twin ∧
      figure.Emits script layout
        (figure.preamble ++ figure.axesCreation layout ++ primary.flatten ++ rest) ∧
      (figure.add series).Emits longer layout
        (figure.preamble ++ figure.axesCreation layout ++ primary.flatten ++ drawn ++ after) ∧
      (figure.hasLabels = true ∨ series.hasLegendEntry = false → after = rest) ∧
      (figure.hasLabels = false → series.hasLegendEntry = true →
        ∃ legends settings shown, (figure.add series).legends layout = .ok legends ∧ legends ≠ [] ∧
          rest = twin.flatten ++ settings ++ figure.saveWith [] :: shown ∧
          after = twin.flatten ++ legends ++ settings ++
            figure.saveWith figure.legendArguments :: shown) := by
  obtain ⟨layout, valid, emits⟩ := emits_written compiled
  have flat := valid.isGrid_eq_false plain
  have more := valid.add checked styled (contains_of_plain flat series.cell)
  obtain ⟨longer, recompiled, emitsMore⟩ := more.exists_emits
  have sound := fun one member => valid.checked one (List.mem_append_left _ member)
  have soundTwin := fun one member => valid.checked one (List.mem_append_right _ member)
  rw [written_of_plain flat] at emits
  -- The front of the longer script is the front of the other one and the new fragment.
  rw [written_of_plain flat, front_add] at emitsMore
  refine ⟨longer, layout, _, _, _, figure.back layout, (figure.add series).back layout, recompiled,
    mapM_fragment_of_check sound .primary, fragment_of_check checked .primary,
    mapM_fragment_of_check soundTwin .twin, emits, emitsMore, ?_, ?_⟩
  · intro settled
    refine back_add flat ?_
    rw [hasLabels_add]
    rcases settled with labels | unlabelled
    · simp [labels]
    · simp [unlabelled]
  · intro unlabelled entry
    have labels : (figure.add series).hasLabels = true := by simp [hasLabels_add, entry]
    exact ⟨_, figure.configuration layout, figure.showStatements, legends_eq more,
      legendStatements_ne_nil flat labels, back_of_unlabelled unlabelled,
      back_of_labelled labels⟩

/-- Two axes, and no series with a legend entry. -/
def unlabelledPair : Figure where
  series := [.line { x := some [1.0] }]
  twin := some { series := [.scatter { y := some [2.0] }] }
  tight := true

theorem unlabelledPair_add_local :
    ∃ script longer layout front drawn rest after,
      unlabelledPair.compile.result = .ok script ∧
      (unlabelledPair.add (.line { x := some [3.0], label := some "a" })).compile.result =
        .ok longer ∧
      fragment (.line { x := some [3.0], label := some "a" }) .primary = .ok drawn ∧
      unlabelledPair.Emits script layout (front ++ rest) ∧
      (unlabelledPair.add (.line { x := some [3.0], label := some "a" })).Emits longer layout
        (front ++ drawn ++ after) ∧
      ∃ twin legends settings shown, legends ≠ [] ∧
        rest = twin ++ settings ++ unlabelledPair.saveWith [] :: shown ∧
        after = twin ++ legends ++ settings ++
          unlabelledPair.saveWith unlabelledPair.legendArguments :: shown := by
  have validated : unlabelledPair.validate = .ok .twin := rfl
  have compiled := compile_eq_ok_iff.mpr ⟨_, validate_eq_ok_iff.mp validated, rfl⟩
  have checked : (Series.line { x := some [3.0], label := some "a" }).check = .ok () := rfl
  obtain ⟨longer, layout, primary, drawn, twin, rest, after, recompiled, _, fragment, _, emits,
    reemits, _, explained⟩ := compile_add_local compiled rfl checked (by decide)
  obtain ⟨legends, settings, shown, _, present, before, behind⟩ := explained rfl rfl
  exact ⟨_, longer, layout, _, drawn, rest, after, compiled, recompiled, fragment, emits, reemits,
    twin.flatten, legends, settings, shown, present, before, behind⟩

end FigureScript.Figure
