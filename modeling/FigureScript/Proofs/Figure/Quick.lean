import FigureScript.Figure.Decode
import FigureScript.Figure.Quick
import FigureScript.Proofs.Figure.Compilation
import FigureScript.Proofs.Series.Index
import Mathlib.Data.List.Forall2

namespace FigureScript

/-! # Figures of labelled lists

Every list becomes a series of its own, drawn against its index. Main statement: such a figure
compiles unless its lists are to be bands, which lack their errors.
-/

/-- The kind of series that is chosen. -/
def PlotKind.seriesKind : PlotKind → SeriesKind
  | line => .line
  | scatter => .scatter
  | errorLine => .errorBand
  | bar => .bar

def Series.kind : Series → SeriesKind
  | line _ => .line
  | scatter _ => .scatter
  | bar _ => .bar
  | errorBand _ => .errorBand
  | matrix _ => .matrix

open Series (labelArgument ordinal register)

/-- The statement draws the values against their index and shows the label, if there is something
in it. There is no such statement for a band. -/
inductive PlotKind.Draws (label : String) (values : List Float) : PlotKind → Statement → Prop
  | line : Draws label values .line
      (.extend "lines" (.method (.name "ax") "plot"
        (.numbers values :: labelArgument (some label))))
  | scatter : Draws label values .scatter
      (register (.method (.name "ax") "scatter"
        ([.numbers (ordinal values.length), .numbers values] ++ labelArgument (some label))))
  | bar : Draws label values .bar
      (register (.method (.name "ax") "bar"
        ([.numbers (ordinal values.length), .numbers values, .number (Binary64.ofNat 1),
          .named "color" (.quoted "b")] ++ labelArgument (some label))))

namespace PlotKind

/-- The series of one list. -/
def labelledSeries (kind : PlotKind) (entry : String × List Float) : Series :=
  (kind.series entry.2 none none).withLabel entry.1

variable {kind : PlotKind} {entry : String × List Float}

theorem kind_labelledSeries : (kind.labelledSeries entry).kind = kind.seriesKind := by
  cases kind <;> rfl

theorem label_labelledSeries : (kind.labelledSeries entry).label = some entry.1 := by
  cases kind <;> rfl

theorem usesPalette_labelledSeries : (kind.labelledSeries entry).usesPalette = false := by
  cases kind <;> rfl

/-- A band cannot be made from one list. -/
theorem check_labelledSeries_errorLine (filled : entry.2 ≠ []) :
    (errorLine.labelledSeries entry).check = .error .noErrors := by
  have center : Given.list (some entry.2) = some entry.2 := Given.list_some filled
  have line : Given.list (none : Option (List Float)) = none := rfl
  simp only [labelledSeries, series, Series.withLabel, Series.check, Band.check, Band.values, center,
    line, bind, Except.bind, Except.map]

theorem statements_labelledSeries (filled : entry.2 ≠ []) (drawable : kind ≠ .errorLine) :
    ∃ statement, (kind.labelledSeries entry).statements .primary = .ok [statement] ∧
      kind.Draws entry.1 entry.2 statement := by
  have unset : (none : Option (List Float)).getD [] = [] := rfl
  cases kind with
  | line =>
      have points := (Trace.points_single filled unset { label := some entry.1 }).1
      refine ⟨_, ?_, Draws.line⟩
      simp only [labelledSeries, series, Series.withLabel, Series.statements, Trace.line, points]
      rfl
  | scatter =>
      have points := (Trace.points_single filled unset { label := some entry.1 }).1
      refine ⟨_, ?_, Draws.scatter⟩
      simp only [labelledSeries, series, Series.withLabel, Series.statements, Trace.scatter, points]
      rfl
  | errorLine => contradiction
  | bar =>
      have fits : ∀ placed ∈ (none : Option Categories), placed.count = entry.2.length := by simp
      exact ⟨_, Bars.draw_of_count filled fits { label := some entry.1 } .primary, Draws.bar⟩

theorem check_labelledSeries (filled : entry.2 ≠ []) (drawable : kind ≠ .errorLine) :
    (kind.labelledSeries entry).check = .ok () := by
  obtain ⟨statement, drawn, _⟩ := statements_labelledSeries filled drawable
  rw [← Series.map_statements _ .primary, drawn]
  rfl

end PlotKind

namespace Figure

variable {kind : PlotKind} {entries : List (String × List Float)}

theorem foldl_add {α : Type} (series : α → Series) (figure : Figure) (entries : List α) :
    entries.foldl (fun figure entry => figure.add (series entry)) figure =
      { figure with series := figure.series ++ entries.map series } := by
  induction entries generalizing figure with
  | nil => simp
  | cons entry rest ih =>
      rw [List.foldl_cons, ih]
      simp [add]

theorem labelled_eq (kind : PlotKind) (entries : List (String × List Float)) :
    labelled kind entries = { series := entries.map kind.labelledSeries } :=
  foldl_add kind.labelledSeries {} entries

theorem allSeries_labelled : (labelled kind entries).allSeries = entries.map kind.labelledSeries := by
  rw [labelled_eq]
  exact List.append_nil _

theorem valid_labelled (filled : ∀ entry ∈ entries, entry.2 ≠ [])
    (drawable : kind = .errorLine → entries = []) : (labelled kind entries).Valid .single := by
  have each : ∀ series ∈ (labelled kind entries).allSeries, ∃ entry ∈ entries,
      kind.labelledSeries entry = series := by
    rw [allSeries_labelled]
    exact fun _ => List.mem_map.mp
  constructor
  case arranged =>
    rw [labelled_eq]
    rfl
  case checked =>
    intro series member
    obtain ⟨entry, listed, rfl⟩ := each series member
    refine PlotKind.check_labelledSeries (filled entry listed) fun band => ?_
    rw [drawable band] at listed
    exact absurd listed List.not_mem_nil
  case styled =>
    intro series member palette
    obtain ⟨entry, _, rfl⟩ := each series member
    rw [PlotKind.usesPalette_labelledSeries] at palette
    contradiction
  case inside => exact fun _ _ => trivial

/-- One statement is written for each list, in the order of the lists. -/
theorem drawing_labelled (filled : ∀ entry ∈ entries, entry.2 ≠ [])
    (drawable : kind = .errorLine → entries = []) :
    ∃ drawn, (labelled kind entries).drawing .single = .ok drawn ∧
      List.Forall₂ (fun entry statement => kind.Draws entry.1 entry.2 statement) entries drawn := by
  have twin : (labelled kind entries).twinSeries = [] := by
    rw [labelled_eq]
    rfl
  have primary : (labelled kind entries).series = entries.map kind.labelledSeries := by
    rw [labelled_eq]
  refine ⟨_, drawing_eq (valid_labelled filled drawable), ?_⟩
  rw [flatMap_steps_of_plain rfl, twin, primary, List.flatMap_nil, List.append_nil]
  clear twin primary
  induction entries with
  | nil => exact .nil
  | cons entry rest ih =>
      rw [List.forall_mem_cons] at filled
      have listed : kind ≠ .errorLine := fun band => List.cons_ne_nil entry rest (drawable band)
      obtain ⟨statement, written, draws⟩ :=
        PlotKind.statements_labelledSeries filled.1 listed
      rw [List.map_cons, List.flatMap_cons, Series.drawn_of_statements written]
      exact .cons draws (ih filled.2 fun band => absurd band listed)

/-- A band is refused for want of errors. -/
theorem not_compiles_labelled {script : String} {entry : String × List Float}
    (listed : entry ∈ entries) (filled : entry.2 ≠ []) :
    (labelled .errorLine entries).compile.result ≠ .ok script := by
  intro compiled
  obtain ⟨layout, valid, _⟩ := compile_eq_ok_iff.mp compiled
  have member : PlotKind.errorLine.labelledSeries entry ∈ (labelled .errorLine entries).allSeries := by
    rw [allSeries_labelled]
    exact List.mem_map_of_mem listed
  have checked := valid.checked _ member
  rw [PlotKind.check_labelledSeries_errorLine filled] at checked
  cases checked

/-- A figure of lists that are not empty has a series for each of them, in their order, of the kind
that was chosen and with its label. It compiles unless the lists are to be bands, and then its script
draws each list against its index, in their order, and nothing else. -/
theorem labelled_compiles_iff (kind : PlotKind) (entries : List (String × List Float))
    (filled : ∀ entry ∈ entries, entry.2 ≠ []) :
    List.Forall₂
      (fun entry series => Series.kind series = kind.seriesKind ∧ series.label = some entry.1)
      entries (labelled kind entries).allSeries ∧
    ((∃ script, (labelled kind entries).compile.result = .ok script) ↔
      (kind = .errorLine → entries = [])) ∧
    ∀ script, (labelled kind entries).compile.result = .ok script →
      ∃ statements drawn, (labelled kind entries).Emits script .single statements ∧
        (labelled kind entries).drawing .single = .ok drawn ∧
        List.Forall₂ (fun entry statement => kind.Draws entry.1 entry.2 statement) entries drawn := by
  have compiles : (∃ script, (labelled kind entries).compile.result = .ok script) ↔
      (kind = .errorLine → entries = []) := by
    constructor
    · rintro ⟨script, compiled⟩ rfl
      by_contra some
      obtain ⟨entry, listed⟩ := List.exists_mem_of_ne_nil entries some
      exact not_compiles_labelled listed (filled entry listed) compiled
    · intro drawable
      exact ⟨_, compile_eq_ok_iff.mpr ⟨.single, valid_labelled filled drawable, rfl⟩⟩
  refine ⟨?_, compiles, fun script compiled => ?_⟩
  · rw [allSeries_labelled, List.forall₂_map_right_iff]
    exact List.forall₂_same.mpr fun entry _ =>
      ⟨PlotKind.kind_labelledSeries, PlotKind.label_labelledSeries⟩
  · have drawable := compiles.mp ⟨script, compiled⟩
    have valid := valid_labelled filled drawable
    obtain ⟨layout, found, emits⟩ := emits_written compiled
    have same : layout = .single := by
      have validated := validate_eq_ok_iff.mpr found
      rw [validate_eq_ok_iff.mpr valid] at validated
      exact (Except.ok.inj validated).symm
    subst same
    obtain ⟨drawn, drawing, draws⟩ := drawing_labelled filled drawable
    exact ⟨_, drawn, emits, drawing, draws⟩

/-- Two lists as bars, one of them without a label. -/
theorem twoLists_compiles_iff :
    (∀ entry ∈ [("a", [3.0, 5.0]), ("", [2.0])], entry.2 ≠ []) ∧
    (∃ script, (labelled .bar [("a", [3.0, 5.0]), ("", [2.0])]).compile.result = .ok script) ∧
    ∃ drawn, (labelled .bar [("a", [3.0, 5.0]), ("", [2.0])]).drawing .single = .ok drawn ∧
      List.Forall₂ (fun entry statement => PlotKind.bar.Draws entry.1 entry.2 statement)
        [("a", [3.0, 5.0]), ("", [2.0])] drawn := by
  have filled : ∀ entry ∈ [("a", [(3.0 : Float), 5.0]), ("", [2.0])], entry.2 ≠ [] := by simp
  obtain ⟨_, compiles, draws⟩ := labelled_compiles_iff .bar _ filled
  obtain ⟨script, compiled⟩ := compiles.mpr (by simp)
  obtain ⟨_, drawn, _, drawing, each⟩ := draws script compiled
  exact ⟨filled, ⟨script, compiled⟩, drawn, drawing, each⟩

/-- A single list that is to be a band is refused. -/
theorem labelledBand_lacks_errors :
    (∀ entry ∈ [("a", [(1.0 : Float)])], entry.2 ≠ []) ∧
    (labelled .errorLine [("a", [1.0])]).compile.result = .error (.series .noErrors) ∧
    ¬ ∃ script, (labelled .errorLine [("a", [1.0])]).compile.result = .ok script := by
  refine ⟨by simp, rfl, ?_⟩
  rintro ⟨script, compiled⟩
  have listed : ("a", [(1.0 : Float)]) ∈ [("a", [1.0])] := List.mem_singleton_self _
  exact not_compiles_labelled listed (by simp) compiled

end Figure

end FigureScript
