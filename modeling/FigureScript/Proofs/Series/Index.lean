import FigureScript.Proofs.Number.ReadBack
import FigureScript.Proofs.Series.NormalForm

namespace FigureScript

/-! # The index of a series

Values without positions are drawn at `0, 1, …`. Main statement: leaving the positions out draws
what naming these positions draws, for every kind of series that allows it.
-/

theorem Given.list_some {α : Type} {items : List α} (present : items ≠ []) :
    Given.list (some items) = some items :=
  Given.list_eq_some_iff.mpr ⟨rfl, present⟩

/-- Neither no list nor an empty one counts as given. -/
theorem Given.list_unset {α : Type} {values : Option (List α)} (unset : values.getD [] = []) :
    Given.list values = none :=
  Given.list_eq_none_iff.mpr unset

theorem Series.ordinal_ne_nil {values : List Float} (present : values ≠ []) :
    Series.ordinal values.length ≠ [] := by
  rw [← List.length_pos_iff, Series.length_ordinal]
  exact List.length_pos_iff.mpr present

variable {values : List Float} {other : Option (List Float)}

/-! ## The values that are drawn -/

/-- Given by themselves, the values stand without positions, whichever list they are given as. -/
theorem Trace.points_single (present : values ≠ []) (unset : other.getD [] = []) (trace : Trace) :
    { trace with x := some values, y := other }.points = .ok ⟨none, values⟩ ∧
      { trace with x := other, y := some values }.points = .ok ⟨none, values⟩ := by
  simp only [points, Given.list_some present, Given.list_unset unset, and_self]

theorem Trace.points_pair {positions : List Float} (first : positions ≠ []) (second : values ≠ [])
    (paired : positions.length = values.length) (trace : Trace) :
    { trace with x := some positions, y := some values }.points = .ok ⟨some positions, values⟩ := by
  simp only [points, Given.list_some first, Given.list_some second, if_pos paired]

theorem Band.values_single (present : values ≠ []) (unset : other.getD [] = []) (band : Band) :
    { band with x := some values, y := other }.values =
      { band with x := some (Series.ordinal values.length), y := some values }.values := by
  simp only [Band.values, Given.list_some present, Given.list_unset unset,
    Given.list_some (Series.ordinal_ne_nil present), bind, Except.bind, Series.length_ordinal,
    if_true]

/-- How many bars the categories are for. -/
def Categories.count : Categories → Nat
  | numeric positions => positions.length
  | labels names => names.length

def Bars.checkErrors (bars : Bars) (count : Nat) : Except SeriesError Unit :=
  match bars.errors with
  | some errors => checkEntries .errors errors.length count
  | none => .ok ()

/-- Categories that fit the values leave only the errors to check. -/
theorem Bars.check_of_count (present : values ≠ []) {categories : Option Categories}
    (fits : ∀ placed ∈ categories, placed.count = values.length) (bars : Bars) :
    { bars with values := some values, categories := categories }.check =
      bars.checkErrors values.length := by
  simp only [check, heights, Given.list_some present, bind, Except.bind]
  rcases categories with _ | ⟨positions | names⟩
  · rfl
  · have passed : checkEntries .positions positions.length values.length = .ok () :=
      if_pos (fits _ rfl)
    simp only [passed]
    rfl
  · have passed : checkEntries .categories names.length values.length = .ok () :=
      if_pos (fits _ rfl)
    simp only [passed]
    rfl

/-- Bars with categories that fit are drawn if their errors fit, by a call and perhaps some ticks. -/
theorem Bars.draw_of_count (present : values ≠ []) {categories : Option Categories}
    (fits : ∀ placed ∈ categories, placed.count = values.length) (bars : Bars) (axes : Axes) :
    { bars with values := some values, categories := categories }.draw axes =
      (bars.checkErrors values.length).map fun _ =>
        let given := { bars with values := some values, categories := categories }
        bars.drawStatement axes (given.positions values) values ::
          given.tickLabels axes (given.positions values) := by
  have heights : { bars with values := some values, categories := categories }.heights =
      .ok values := by
    simp only [Bars.heights, Given.list_some present]
  rw [draw, Bars.check_of_count present fits, heights]
  cases bars.checkErrors values.length <;> rfl

theorem Bars.checkErrors_eq_ok_iff {bars : Bars} {count : Nat} :
    bars.checkErrors count = .ok () ↔ ∀ errors ∈ bars.errors, errors.length = count := by
  unfold checkErrors
  cases bars.errors <;> simp [checkEntries_eq_ok_iff]

namespace Series

/-! ## The lines -/

section

variable {axes : Axes} {script : Script}

/-- What is drawn and reported depends on the statements and the notes alone. -/
theorem render_congr {series other : Series} (same : series.statements axes = other.statements axes)
    (notes : series.notes = other.notes) :
    series.render axes script = other.render axes script := by
  simp only [render, series.appends_write axes _, other.appends_write axes _, same, notes]

/-- Bars report nothing. -/
theorem render_bar (bars : Bars) :
    (bar bars).render axes script = ⟨[], ((bar bars).statements axes).map script.append⟩ := by
  simp only [render, (bar bars).appends_write axes _]
  cases (bar bars).statements axes <;> rfl

theorem render_scatter_single (present : values ≠ []) (unset : other.getD [] = []) (trace : Trace) :
    (scatter { trace with x := some values, y := other }).render axes script =
        (scatter { trace with x := some (ordinal values.length), y := some values }).render axes
          script ∧
      (scatter { trace with x := other, y := some values }).render axes script =
        (scatter { trace with x := some (ordinal values.length), y := some values }).render axes
          script := by
  obtain ⟨first, second⟩ := Trace.points_single present unset trace
  have pair := Trace.points_pair (ordinal_ne_nil present) present (length_ordinal _) trace
  constructor
  · refine render_congr ?_ rfl
    rw [statements_eq_normalForm, statements_eq_normalForm, normalForm, normalForm, first, pair]
    rfl
  · refine render_congr ?_ rfl
    rw [statements_eq_normalForm, statements_eq_normalForm, normalForm, normalForm, second, pair]
    rfl

theorem render_band_single (present : values ≠ []) (unset : other.getD [] = []) (band : Band) :
    (errorBand { band with x := some values, y := other }).render axes script =
      (errorBand { band with x := some (ordinal values.length), y := some values }).render axes
        script := by
  refine render_congr ?_ rfl
  rw [statements_eq_normalForm, statements_eq_normalForm, normalForm, normalForm,
    Band.values_single present unset]

theorem render_bar_unplaced (present : values ≠ []) (bars : Bars) :
    (bar { bars with values := some values, categories := none }).render axes script =
      (bar { bars with
        values := some values
        categories := some (.numeric (ordinal values.length)) }).render axes script := by
  refine render_congr ?_ rfl
  have fits : ∀ placed ∈ some (Categories.numeric (ordinal values.length)),
      placed.count = values.length := by
    simp [Categories.count]
  rw [statements, statements, Bars.draw_of_count present (by simp), Bars.draw_of_count present fits]
  rfl

/-- The lines that put names on the first positions of an axis. -/
def namedTicks (axes : Axes) (axis : String) (names : List String) : List String :=
  [axes.variableName ++ ".set_" ++ axis ++ "ticks(" ++
      Literal.numberList (ordinal names.length) ++ ")",
    axes.variableName ++ ".set_" ++ axis ++ "ticklabels(" ++ Literal.textList names ++ ")"]

theorem text_call (field : String) (argument : Expr) :
    (Statement.evaluate (.method axes.expr field [argument])).text =
      axes.variableName ++ "." ++ field ++ "(" ++ argument.text ++ ")" := by
  simp [Statement.text, Expr.method, Axes.expr, Expr.text, Expr.texts, Literal.separated]

theorem text_tickLabels {bars : Bars} {names : List String}
    (named : bars.categories = some (.labels names)) (axes : Axes) :
    (bars.tickLabels axes (ordinal names.length)).map Statement.text =
      namedTicks axes bars.categoryAxis names := by
  simp only [Bars.tickLabels, named, List.map_cons, List.map_nil, text_call, Expr.text_numbers,
    Expr.text_quotedList, namedTicks]
  have dotted : ".set_" = "." ++ "set_" := rfl
  have opened : "ticks(" = "ticks" ++ "(" ∧ "ticklabels(" = "ticklabels" ++ "(" := ⟨rfl, rfl⟩
  simp only [dotted, opened, String.append_assoc]

/-- Names add two lines to those of bars without names. -/
theorem render_bar_named (present : values ≠ []) {names : List String}
    (each : names.length = values.length) (bars : Bars) :
    (bar { bars with values := some values, categories := some (.labels names) }).render axes
        script =
      ⟨[], ((bar { bars with values := some values, categories := none }).render axes
          script).result.map
        fun drawn => ⟨drawn.lines ++ namedTicks axes bars.categoryAxis names⟩⟩ := by
  have fits : ∀ placed ∈ some (Categories.labels names), placed.count = values.length := by
    simpa [Categories.count] using each
  obtain ⟨named, isNamed⟩ : ∃ named,
      named = { bars with values := some values, categories := some (.labels names) } := ⟨_, rfl⟩
  have shown : named.categories = some (.labels names) := by rw [isNamed]
  have ticks := text_tickLabels shown axes
  have axis : named.categoryAxis = bars.categoryAxis := by
    rw [isNamed]
    rfl
  have statements_named : (bar named).statements axes =
      ((bar { bars with values := some values, categories := none }).statements axes).map
        (· ++ named.tickLabels axes (ordinal names.length)) := by
    rw [isNamed, statements, statements, Bars.draw_of_count present fits,
      Bars.draw_of_count present (by simp), each]
    cases bars.checkErrors values.length <;> rfl
  rw [← isNamed, render_bar, render_bar, statements_named, ← axis, ← ticks]
  cases (bar { bars with values := some values, categories := none }).statements axes with
  | error error => rfl
  | ok drawn => simp [Except.map, Script.append]

end

/-- The index is written as the numerals from zero on. -/
theorem numberList_ordinal {count : Nat} (few : count ≤ 2 ^ 53) :
    Literal.numberList (ordinal count) = Literal.bracketed ((List.range count).map toString) := by
  rw [Literal.numberList, ordinal, List.map_map]
  refine congrArg Literal.bracketed (List.map_congr_left fun position member => ?_)
  exact Number.number_ofNat (Nat.lt_of_lt_of_le (List.mem_range.mp member) few)

/-- A series without positions is drawn as the same series with its index for positions. Scatter
plots always are, bands and bars where their errors fit, and names of bars only add ticks at the
index. The index is written as the numerals from zero on. -/
theorem index_agrees {values : List Float} (present : values ≠ []) {other : Option (List Float)}
    (unset : other.getD [] = []) (axes : Axes) (script : Script) :
    (∀ trace : Trace,
      let explicit := scatter
        { trace with x := some (ordinal values.length), y := some values }
      (scatter { trace with x := some values, y := other }).render axes script =
          explicit.render axes script ∧
        (scatter { trace with x := other, y := some values }).render axes script =
          explicit.render axes script ∧
        explicit.check = .ok ()) ∧
    (∀ band : Band,
      let explicit := errorBand
        { band with x := some (ordinal values.length), y := some values }
      (errorBand { band with x := some values, y := other }).render axes script =
          explicit.render axes script ∧
        (explicit.check = .ok () ↔ ∃ errors, band.errors = some errors ∧
          errors.length = values.length)) ∧
    (∀ bars : Bars,
      let plain := bar { bars with values := some values, categories := none }
      plain.render axes script =
          (bar { bars with
            values := some values
            categories := some (.numeric (ordinal values.length)) }).render axes script ∧
        (∀ names : List String, names.length = values.length →
          (bar { bars with
            values := some values
            categories := some (.labels names) }).render axes script =
              ⟨[], (plain.render axes script).result.map fun drawn =>
                ⟨drawn.lines ++ namedTicks axes bars.categoryAxis names⟩⟩) ∧
        (plain.check = .ok () ↔ ∀ errors ∈ bars.errors, errors.length = values.length)) ∧
    (values.length ≤ 2 ^ 53 → Literal.numberList (ordinal values.length) =
      Literal.bracketed ((List.range values.length).map toString)) := by
  refine ⟨fun trace => ?_, fun band => ?_, fun bars => ?_, numberList_ordinal⟩
  · obtain ⟨first, second⟩ := render_scatter_single present unset trace
    have pair := Trace.points_pair (ordinal_ne_nil present) present (length_ordinal _) trace
    refine ⟨first, second, ?_⟩
    simp only [check, Trace.check, pair, Except.map]
  · refine ⟨render_band_single present unset band, ?_⟩
    rw [check, Band.check_eq_ok_iff]
    simp [Band.Consistent, ordinal_ne_nil present]
  · refine ⟨render_bar_unplaced present bars, fun names each => ?_, ?_⟩
    · exact render_bar_named present each bars
    · rw [check, Bars.check_of_count present (by simp), Bars.checkErrors_eq_ok_iff]

/-- Two heights with names stand at the first two positions, as a line through two values does. -/
theorem index_agrees_two :
    ([3, 5] : List Float) ≠ [] ∧ (some ([] : List Float)).getD [] = [] ∧
      (scatter { x := some [], y := some [3, 5], color := some .palette }).render .twin .empty =
        (scatter { x := some (ordinal 2), y := some [3, 5], color := some .palette }).render .twin
          .empty ∧
      ((bar { values := some [3, 5], categories := some (.labels ["a", "b"]) }).render .primary
        .empty).result.map (fun drawn => drawn.lines.drop 1) =
          .ok ["ax.set_xticks([0, 1])", "ax.set_xticklabels(['a', 'b'])"] := by
  have present : ([3, 5] : List Float) ≠ [] := List.cons_ne_nil _ _
  have unset : (some ([] : List Float)).getD [] = [] := rfl
  obtain ⟨scattered, _⟩ := index_agrees present unset .twin .empty
  obtain ⟨_, _, placed, index⟩ := index_agrees present unset .primary .empty
  refine ⟨present, unset, (scattered { color := some .palette }).2.1, ?_⟩
  have numerals : Literal.numberList (ordinal 2) = "[0, 1]" := index (by norm_num)
  have ticks : namedTicks .primary "x" ["a", "b"] =
      ["ax.set_xticks([0, 1])", "ax.set_xticklabels(['a', 'b'])"] := by
    have count : ["a", "b"].length = 2 := rfl
    rw [namedTicks, count, numerals]
    rfl
  have axis : ({} : Bars).categoryAxis = "x" := rfl
  have named := (placed {}).2.1 ["a", "b"] rfl
  rw [axis, ticks] at named
  rw [named, render_bar, statements, Bars.draw_of_count present (by simp)]
  simp [Bars.checkErrors, Bars.tickLabels, Except.map, Script.append, Script.empty]

end Series

end FigureScript
