import FigureScript.Proofs.Figure.Vocabulary
import FigureScript.Proofs.Script.Calls

namespace FigureScript.Figure

/-! # Legends and the saved image

The legend calls of a script are those of its legend phase, and saving refers to a legend exactly
where that phase has one.
-/

variable {figure : Figure} {layout : Layout}

theorem hasLabels_eq_true :
    figure.hasLabels = true ↔ ∃ series ∈ figure.allSeries, series.hasLegendEntry = true :=
  List.any_eq_true

theorem invokes_legendStatement {axes : Expr} {arguments : List Expr} :
    (legendStatement axes arguments).invokes "legend" = true := by
  simp [legendStatement, Statement.invokes, Statement.calls]

/-- The statements of a script that call `legend` are in its legend phase. -/
theorem filter_legend_written (valid : figure.Valid layout) :
    (figure.written layout).filter (Statement.invokes "legend") =
      (figure.legendStatements layout).filter (Statement.invokes "legend") := by
  simp only [written, List.filter_append, confined_preamble.filter_invokes "legend" (by decide),
    confined_axesCreation.filter_invokes "legend" (by decide),
    (confined_drawing valid).filter_invokes "legend" (by decide),
    confined_configuration.filter_invokes "legend" (by decide),
    confined_postamble.filter_invokes "legend" (by decide), List.nil_append, List.append_nil]

theorem filter_savefig_written (valid : figure.Valid layout) :
    (figure.written layout).filter (Statement.invokes "savefig") = [figure.saveStatement] := by
  have save : figure.postamble.filter (Statement.invokes "savefig") = [figure.saveStatement] := by
    cases shown : figure.showWindow <;>
      simp [postamble, shown, saveStatement, Statement.invokes, Statement.calls]
  simp only [written, List.filter_append, confined_preamble.filter_invokes "savefig" (by decide),
    confined_axesCreation.filter_invokes "savefig" (by decide),
    (confined_drawing valid).filter_invokes "savefig" (by decide),
    confined_legendStatements.filter_invokes "savefig" (by decide),
    confined_configuration.filter_invokes "savefig" (by decide), save, List.nil_append]

/-- The common legend of two axes stands behind the statement that collects its labels. -/
theorem legendStatements_twin (labels : figure.hasLabels = true) :
    figure.legendStatements .twin =
      collectLabels :: (figure.legendStatements .twin).filter (Statement.invokes "legend") ∧
    (figure.legendStatements .twin).filter (Statement.invokes "legend") =
      [.assign ["lgd"] (.method (.name "ax2") "legend"
        ([.name "lines", .name "labels"] ++ figure.legend.arguments))] := by
  have collects : ¬ collectLabels.invokes "legend" = true := by decide
  simp only [legendStatements, if_pos labels, List.filter_cons_of_neg collects,
    List.filter_cons_of_pos invokes_legendStatement, List.filter_nil, true_and]
  rfl

theorem filter_legend_grid {shape : Grid} (labels : figure.hasLabels = true) :
    (figure.legendStatements (.grid shape)).filter (Statement.invokes "legend") =
      figure.legendCells.map fun cell =>
        legendStatement (shape.selector cell) figure.legend.arguments := by
  simp only [legendStatements, if_pos labels]
  refine List.filter_eq_self.mpr fun statement member => ?_
  obtain ⟨cell, _, rfl⟩ := List.mem_map.mp member
  exact invokes_legendStatement

end FigureScript.Figure
