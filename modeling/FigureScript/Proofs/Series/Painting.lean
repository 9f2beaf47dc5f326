import FigureScript.Proofs.Script.PaletteCalls
import FigureScript.Proofs.Series.Calls
import FigureScript.Proofs.Series.Vocabulary

namespace FigureScript

open Lexer

/-! # What series are painted with

A script is run for its colors alone: how many it takes off the palette, which one it keeps in a
variable, and what each draw call is given. Main statement: a series takes a color off the palette
only if it asks for one, and all its draw calls are given that same color.
-/

/-- What a draw call is given for its color. -/
inductive Paint where
  | unset
  | named (name : String)
  /-- The color that is taken off the palette when `earlier` others are gone. -/
  | taken (earlier : Nat)
  deriving DecidableEq, Repr

/-- How far a script has come with its colors. -/
structure Brush where
  taken : Nat := 0
  /-- The value of the variable that keeps a color. -/
  kept : Paint := .unset
  /-- The draw calls so far, each with its color. -/
  painted : List (String × Paint) := []
  deriving DecidableEq, Repr

namespace Expr

def isColor : Expr → Bool
  | .named parameter _ => parameter == "color"
  | _ => false

/-- True where a call with these arguments takes a color off the palette. -/
def takesColor : Expr → List Expr → Bool
  | .name function, [.name argument] => function == "next" && argument == "palette"
  | _, _ => false

end Expr

/-- A call whose arguments have been evaluated, with the color among them. -/
def Brush.call (brush : Brush) (function : Expr) (arguments : List Expr) (color : Paint) :
    Paint × Brush :=
  if function.takesColor arguments then
    (.taken brush.taken, { brush with taken := brush.taken + 1 })
  else if Call.name ⟨function, arguments⟩ ∈ drawNames then
    (.unset, { brush with
      painted := brush.painted ++ [(Call.name ⟨function, arguments⟩, color)] })
  else (.unset, brush)

namespace Expr

mutual

/-- The color that an expression evaluates to, if to any, and what evaluating it does. Operands and
arguments come from left to right, then the call they belong to. The item of a comprehension counts
once: no color is taken in the comprehensions that are written. -/
def paint : Expr → Brush → Paint × Brush
  | .name identifier, brush => (if identifier = "c" then brush.kept else .unset, brush)
  | .number _, brush | .natural _, brush | .truth _, brush => (.unset, brush)
  | .quoted value, brush => (.named value, brush)
  | .list items, brush => (.unset, (paintEach items brush).2)
  | .single item, brush => (.unset, (paint item brush).2)
  | .member object _, brush => (.unset, (paint object brush).2)
  | .index object positions, brush => (.unset, (paintEach positions (paint object brush).2).2)
  | .call function arguments, brush =>
    let given := paintEach arguments (paint function brush).2
    given.2.call function arguments given.1
  | .named _ value, brush => paint value brush
  | .sum left right, brush | .difference left right, brush =>
    (.unset, (paint right (paint left brush).2).2)
  | .collect item _ source, brush => (.unset, (paint item (paint source brush).2).2)

/-- The color among arguments. -/
def paintEach : List Expr → Brush → Paint × Brush
  | [], brush => (.unset, brush)
  | item :: rest, brush =>
    let first := paint item brush
    let others := paintEach rest first.2
    (if item.isColor then first.1 else others.1, others.2)

end

/-- The expression neither takes a color nor draws. -/
def Idle (expression : Expr) : Prop :=
  ∀ call ∈ expression.calls, call.name ∉ "next" :: drawNames

theorem name_of_takesColor {function : Expr} {arguments : List Expr}
    (takes : function.takesColor arguments = true) : Call.name ⟨function, arguments⟩ = "next" := by
  unfold takesColor at takes
  split at takes
  · simp only [Bool.and_eq_true, beq_iff_eq] at takes
    exact takes.1
  · contradiction

theorem call_of_idle {function : Expr} {arguments : List Expr} {color : Paint} {brush : Brush}
    (idle : Call.name ⟨function, arguments⟩ ∉ "next" :: drawNames) :
    brush.call function arguments color = (.unset, brush) := by
  rw [List.mem_cons, not_or] at idle
  have keeps : ¬ function.takesColor arguments = true :=
    fun takes => idle.1 (name_of_takesColor takes)
  rw [Brush.call, if_neg keeps, if_neg idle.2]

mutual

theorem paint_of_idle : (expression : Expr) → expression.Idle → ∀ brush,
    (expression.paint brush).2 = brush
  | .name _, _, _ | .number _, _, _ | .natural _, _, _ | .truth _, _, _ | .quoted _, _, _ => rfl
  | .list items, idle, brush => paintEach_of_idle items idle brush
  | .single item, idle, brush => paint_of_idle item idle brush
  | .member object _, idle, brush => paint_of_idle object idle brush
  | .index object positions, idle, brush => by
      obtain ⟨first, others⟩ := List.forall_mem_append.mp idle
      simp only [paint, paint_of_idle object first, paintEach_of_idle positions others]
  | .call function arguments, idle, brush => by
      obtain ⟨here, inner⟩ := List.forall_mem_cons.mp idle
      obtain ⟨first, others⟩ := List.forall_mem_append.mp inner
      simp only [paint, paint_of_idle function first, call_of_idle here,
        paintEach_of_idle arguments others]
  | .named _ value, idle, brush => paint_of_idle value idle brush
  | .sum left right, idle, brush | .difference left right, idle, brush => by
      obtain ⟨first, second⟩ := List.forall_mem_append.mp idle
      simp only [paint, paint_of_idle left first, paint_of_idle right second]
  | .collect item _ source, idle, brush => by
      obtain ⟨first, second⟩ := List.forall_mem_append.mp idle
      simp only [paint, paint_of_idle item first, paint_of_idle source second]

theorem paintEach_of_idle : (items : List Expr) →
    (∀ call ∈ callsEach items, call.name ∉ "next" :: drawNames) → ∀ brush,
    (paintEach items brush).2 = brush
  | [], _, _ => rfl
  | item :: rest, idle, brush => by
      obtain ⟨first, others⟩ := List.forall_mem_append.mp idle
      simp only [paintEach, paint_of_idle item first, paintEach_of_idle rest others]

end

/-- An argument that gives no color and does nothing to any. -/
def Colorless (item : Expr) : Prop := item.isColor = false ∧ item.Idle

variable {front back : List Expr} {brush : Brush}

theorem paintEach_append (colorless : ∀ item ∈ front, item.Colorless) (back : List Expr)
    (brush : Brush) : paintEach (front ++ back) brush = paintEach back brush := by
  induction front generalizing brush with
  | nil => rfl
  | cons item rest ih =>
      obtain ⟨⟨plain, idle⟩, others⟩ := List.forall_mem_cons.mp colorless
      simp only [List.cons_append, paintEach, paint_of_idle item idle, plain, ih others,
        Bool.false_eq_true, if_false]

theorem paintEach_of_colorless (colorless : ∀ item ∈ back, item.Colorless) (brush : Brush) :
    paintEach back brush = (.unset, brush) := by
  have whole := paintEach_append colorless [] brush
  rwa [List.append_nil] at whole

/-- The one color argument gives the color. -/
theorem paintEach_color (value : Expr) (first : ∀ item ∈ front, item.Colorless)
    (last : ∀ item ∈ back, item.Colorless) (brush : Brush) :
    paintEach (front ++ named "color" value :: back) brush = value.paint brush := by
  rw [paintEach_append first, paintEach, paintEach_of_idle]
  · rfl
  · rw [callsEach_eq_flatMap, List.forall_mem_flatMap]
    exact fun item member => (last item member).2

/-- A call that draws is given the color among its arguments. -/
theorem paint_call {function : Expr} {arguments : List Expr} {color : Paint} {after : Brush}
    (drawing : Call.name ⟨function, arguments⟩ ∈ drawNames) (idle : function.Idle)
    (given : paintEach arguments brush = (color, after)) :
    (call function arguments).paint brush =
      (.unset, { after with
        painted := after.painted ++ [(Call.name ⟨function, arguments⟩, color)] }) := by
  have keeps : ¬ function.takesColor arguments = true := by
    intro takes
    rw [name_of_takesColor takes] at drawing
    exact absurd drawing (by decide)
  simp only [paint, paint_of_idle function idle, given, Brush.call, if_neg keeps, if_pos drawing]

end Expr

namespace Statement

/-- What running a statement does. -/
def paint : Statement → Brush → Brush
  | .assign targets value, brush =>
    let given := value.paint brush
    if "c" ∈ targets then { given.2 with kept := given.1 } else given.2
  | .extend _ value, brush | .evaluate value, brush => (value.paint brush).2
  | .nested inner, brush => inner.paint brush
  | .importModule _, brush | .importAs .., brush | .importFrom .., brush | .importAll _, brush
  | .attempt, brush | .rescue .., brush => brush

/-- A statement that uses none of these names does nothing to the colors. -/
theorem Uses.paint_eq {word quote : String → Prop} {statement : Statement}
    (uses : statement.Uses word quote) (apart : ∀ name ∈ "c" :: "next" :: drawNames, ¬ word name)
    (brush : Brush) : statement.paint brush = brush := by
  have calls : ∀ call ∈ statement.calls, call.name ∉ "next" :: drawNames := by
    intro call member among
    have named : call.name ≠ "" := fun same => absurd (same ▸ among) (by decide)
    exact apart _ (List.mem_cons_of_mem _ among) (uses.of_calls member named)
  induction statement with
  | assign targets value =>
      have other : "c" ∉ targets := fun member => apart _ List.mem_cons_self (uses.1 _ member)
      simp only [paint, value.paint_of_idle calls, if_neg other]
  | extend target value => exact value.paint_of_idle calls brush
  | evaluate value => exact value.paint_of_idle calls brush
  | nested inner ih => exact ih uses calls
  | importModule | importAs | importFrom | importAll | attempt | rescue => rfl

end Statement

namespace Brush

def run (brush : Brush) (statements : List Statement) : Brush :=
  statements.foldl (fun brush statement => statement.paint brush) brush

@[simp] theorem run_nil (brush : Brush) : brush.run [] = brush := rfl

@[simp] theorem run_cons (brush : Brush) (statement : Statement) (rest : List Statement) :
    brush.run (statement :: rest) = (statement.paint brush).run rest := rfl

@[simp] theorem run_append (brush : Brush) (left right : List Statement) :
    brush.run (left ++ right) = (brush.run left).run right :=
  List.foldl_append ..

end Brush

theorem Confined.run_eq {names : List String} {quote : String → Prop}
    {statements : List Statement} (confined : Confined names quote statements)
    (apart : ∀ name ∈ "c" :: "next" :: drawNames, name ∉ names) (brush : Brush) :
    brush.run statements = brush := by
  induction statements generalizing brush with
  | nil => rfl
  | cons statement rest ih =>
      obtain ⟨first, others⟩ := Confined.cons_iff.mp confined
      rw [Brush.run_cons, first.paint_eq apart, ih others]

/-! ## One series -/

/-- What a draw call is given for a color where `earlier` colors are gone from the palette. -/
def Color.paint (earlier : Nat) : Color → Paint
  | palette => .taken earlier
  | named name => .named name

theorem Axes.variableName_ne_palette (axes : Axes) : axes.variableName ≠ "palette" := by
  rcases axes.variableName_cases with same | same <;> rw [same] <;> decide

namespace Series

def paintOf (color : Option Color) (earlier : Nat) : Paint :=
  (color.map (Color.paint earlier)).getD .unset

/-- The draw calls of a series with their colors. Bars that are given none are blue, and a matrix
has no color; both calls of a band have the same one. -/
def paints (earlier : Nat) : Series → List (String × Paint)
  | line trace => [("plot", paintOf trace.color earlier)]
  | scatter trace => [("scatter", paintOf trace.color earlier)]
  | bar bars => [(bars.drawMethod, (bars.color.getD .blue).paint earlier)]
  | errorBand band =>
    [("plot", paintOf band.color earlier), ("fill_between", paintOf band.color earlier)]
  | matrix values =>
    if values.hinton then [("sca", .unset), ("hinton", .unset)] else [("matshow", .unset)]

/-- How many colors a series takes off the palette. -/
def taken (series : Series) : Nat := if series.usesPalette then 1 else 0

section

variable {brush : Brush} {front back : List Expr} {axes : Axes}

theorem paint_color (color : Color) (brush : Brush) :
    color.expr.paint brush =
      (color.paint brush.taken,
        { brush with taken := brush.taken + if color.isPalette then 1 else 0 }) := by
  cases color with
  | palette => rfl
  | named name => rfl

theorem colorless_numbers (values : List Float) : (Expr.numbers values).Colorless :=
  ⟨rfl, by simp [Expr.Idle]⟩

theorem colorless_number (value : Float) : (Expr.number value).Colorless :=
  ⟨rfl, by simp [Expr.Idle]⟩

theorem colorless_labelArgument (label : Option String) :
    ∀ item ∈ labelArgument label, item.Colorless := by
  cases given : Given.text label <;>
    simp [labelArgument, given, Expr.Colorless, Expr.isColor, Expr.Idle]

theorem colorless_errorArgument (bars : Bars) : ∀ item ∈ bars.errorArgument, item.Colorless := by
  cases errors : bars.errors <;> cases horizontal : bars.horizontal <;>
    simp [Bars.errorArgument, errors, horizontal, Expr.Colorless, Expr.isColor, Expr.Idle]

theorem paint_method (axes : Axes) {field : String} {arguments : List Expr} {color : Paint}
    {after : Brush} (drawing : field ∈ drawNames)
    (given : Expr.paintEach arguments brush = (color, after)) :
    (Expr.method axes.expr field arguments).paint brush =
      (.unset, { after with painted := after.painted ++ [(field, color)] }) := by
  have idle : (Expr.member axes.expr field).Idle := by
    simp [Expr.Idle, Axes.expr]
  exact Expr.paint_call drawing idle given

/-- Arguments with an optional color among them. -/
theorem paintEach_colorArgument (color : Option Color) (first : ∀ item ∈ front, item.Colorless)
    (last : ∀ item ∈ back, item.Colorless) (brush : Brush) :
    Expr.paintEach (front ++ colorArgument color ++ back) brush =
      (paintOf color brush.taken,
        { brush with taken := brush.taken + if color.any Color.isPalette then 1 else 0 }) := by
  cases color with
  | none =>
      rw [colorArgument, List.append_nil, Expr.paintEach_append first,
        Expr.paintEach_of_colorless last]
      rfl
  | some color =>
      rw [colorArgument, List.append_assoc, List.singleton_append,
        Expr.paintEach_color color.expr first last, paint_color]
      rfl

theorem paint_draw (axes : Axes) {field : String} (drawing : field ∈ drawNames)
    (color : Option Color)
    (first : ∀ item ∈ front, item.Colorless) (last : ∀ item ∈ back, item.Colorless)
    (brush : Brush) :
    ((Expr.method axes.expr field (front ++ colorArgument color ++ back)).paint brush).2 =
      { brush with
        taken := brush.taken + if color.any Color.isPalette then 1 else 0
        painted := brush.painted ++ [(field, paintOf color brush.taken)] } :=
  congrArg Prod.snd
    (paint_method axes drawing (paintEach_colorArgument color first last brush))

theorem paint_register (object : Expr) (field : String) (arguments : List Expr) (brush : Brush) :
    (register (.method object field arguments)).paint brush =
      ((Expr.method object field arguments).paint brush).2 := by
  have apart : "append" ∉ "next" :: drawNames := by decide
  have plain : (Expr.method object field arguments).isColor = false := rfl
  have appended : ∀ (items : List Expr) (color : Paint) (brush : Brush),
      brush.call (.member (.name "lines") "append") items color = (.unset, brush) :=
    fun _ _ _ => Expr.call_of_idle apart
  simp only [register, Statement.paint]
  rw [Expr.method.eq_def (.name "lines")]
  simp only [Expr.paint, Expr.paintEach, appended]

theorem run_tickLabels (bars : Bars) (axes : Axes) (positions : List Float) (brush : Brush) :
    brush.run (bars.tickLabels axes positions) = brush := by
  have apart : ∀ part ∈ ["ticks", "ticklabels"],
      "set_" ++ bars.categoryAxis ++ part ∉ "next" :: drawNames := by
    cases horizontal : bars.horizontal <;> simp only [Bars.categoryAxis, horizontal] <;> decide
  simp only [List.forall_mem_cons] at apart
  unfold Bars.tickLabels
  split
  · rename_i names _
    have ticks : (Expr.method axes.expr ("set_" ++ bars.categoryAxis ++ "ticks")
        [.numbers positions]).Idle := by
      simpa [Expr.Idle, Axes.expr] using apart.1
    have labels : (Expr.method axes.expr ("set_" ++ bars.categoryAxis ++ "ticklabels")
        [.quotedList names]).Idle := by
      simpa [Expr.Idle, Axes.expr] using apart.2.1
    simp only [Brush.run_cons, Brush.run_nil, Statement.paint, Expr.paint_of_idle _ ticks,
      Expr.paint_of_idle _ labels]
  · rfl

theorem paint_bindArray {name : String} (other : "c" ≠ name) (values : List Float)
    (brush : Brush) : (Band.bindArray name values).paint brush = brush := by
  have idle : (Expr.call (.name "array") [.numbers values]).Idle := by
    simp [Expr.Idle, drawNames]
  simp [Band.bindArray, Statement.paint, Expr.paint_of_idle _ idle, other]

theorem run_colorDraw (band : Band) (brush : Brush) :
    ∃ kept, brush.run band.colorDraw =
        ⟨brush.taken + (errorBand band).taken, kept, brush.painted⟩ ∧
      (band.color = some .palette → kept = .taken brush.taken) := by
  rcases color : band.color with _ | _ | name
  · exact ⟨brush.kept, by simp [Band.colorDraw, taken, usesPalette, Series.color, color], by simp⟩
  · refine ⟨.taken brush.taken, ?_, fun _ => rfl⟩
    simp [Band.colorDraw, taken, usesPalette, Series.color, color, Statement.paint, paint_color,
      Color.isPalette, Color.paint]
  · refine ⟨brush.kept, ?_, by simp⟩
    simp [Band.colorDraw, taken, usesPalette, Series.color, color, Color.isPalette]

/-- Once the color of a band is kept, its calls are given it without taking another. -/
theorem paintEach_bandColor {band : Band} {earlier : Nat}
    (kept : band.color = some .palette → brush.kept = .taken earlier)
    (first : ∀ item ∈ front, item.Colorless) (last : ∀ item ∈ back, item.Colorless) :
    Expr.paintEach (front ++ band.colorArgument ++ back) brush =
      (paintOf band.color earlier, brush) := by
  rcases color : band.color with _ | _ | name
  · rw [Band.colorArgument, color]
    exact paintEach_colorArgument none first last brush
  · rw [Band.colorArgument, color, List.append_assoc, List.singleton_append,
      Expr.paintEach_color _ first last]
    exact congrArg (·, brush) (kept color)
  · rw [Band.colorArgument, color]
    exact paintEach_colorArgument (some (.named name)) first last brush

theorem paint_plot {band : Band} {earlier : Nat}
    (kept : band.color = some .palette → brush.kept = .taken earlier) :
    (Statement.extend "lines" (.method axes.expr "plot"
        ([.name "x", .name "y"] ++ band.colorArgument ++ labelArgument band.label))).paint brush =
      { brush with painted := brush.painted ++ [("plot", paintOf band.color earlier)] } := by
  have names : ∀ item ∈ [Expr.name "x", .name "y"], item.Colorless := by
    simp [Expr.Colorless, Expr.isColor, Expr.Idle]
  have drawing : "plot" ∈ drawNames := by decide
  rw [Statement.paint, paint_method axes drawing
    (paintEach_bandColor kept names (colorless_labelArgument band.label))]

theorem paint_fillStatement {band : Band} {earlier : Nat}
    (kept : band.color = some .palette → brush.kept = .taken earlier) :
    (band.fillStatement axes).paint brush =
      { brush with
        painted := brush.painted ++ [("fill_between", paintOf band.color earlier)] } := by
  have bounds : ∀ item ∈ [Expr.name "x", .difference (.name "y") (.name "e"),
      .sum (.name "y") (.name "e"), .named "alpha" (.number (band.alpha.getD Band.defaultAlpha))],
      item.Colorless := by
    simp [Expr.Colorless, Expr.isColor, Expr.Idle]
  have drawing : "fill_between" ∈ drawNames := by decide
  have filled := paint_method axes drawing
    (paintEach_bandColor kept bounds (colorless_labelArgument band.errorLabel))
  unfold Band.fillStatement
  split
  · rw [Band.fill, paint_register, filled]
  · rw [Band.fill, Statement.paint, filled]

theorem paint_bindRows (values : Matrix) (brush : Brush) : values.bindRows.paint brush = brush := by
  have idle : (Expr.call (.name "array") [.numberRows values.values]).Idle := by
    simp [Expr.Idle, drawNames]
  simp [Matrix.bindRows, Statement.paint, Expr.paint_of_idle _ idle]

/-- No color is given where a matrix is shown. -/
theorem run_display (values : Matrix) (axes : Axes) (brush : Brush) :
    brush.run (values.display axes) =
      { brush with painted := brush.painted ++ (matrix values).paints brush.taken } := by
  have drawing : ∀ name ∈ ["sca", "hinton", "matshow"], name ∈ drawNames := by decide
  simp only [List.forall_mem_cons] at drawing
  unfold Matrix.display
  split
  · rename_i hinton
    have named : (Expr.name "sca").Idle := by simp [Expr.Idle]
    have member : (Expr.member (.name "special") "hinton").Idle := by simp [Expr.Idle]
    have selects : ∀ brush : Brush, (Expr.call (.name "sca") [axes.expr]).paint brush =
        (.unset, { brush with painted := brush.painted ++ [("sca", .unset)] }) :=
      fun _ => Expr.paint_call drawing.1 named rfl
    have draws : ∀ brush : Brush, (Expr.method (.name "special") "hinton" [.name "x"]).paint brush =
        (.unset, { brush with painted := brush.painted ++ [("hinton", .unset)] }) :=
      fun _ => Expr.paint_call drawing.2.1 member rfl
    simp [Statement.paint, selects, draws, paints, hinton]
  · rename_i image
    have given : ∀ item ∈ [Expr.name "x",
        .named "cmap" (.quoted (values.colorMap.getD Matrix.defaultColorMap))],
        item.Colorless := by
      simp [Expr.Colorless, Expr.isColor, Expr.Idle]
    simp only [Brush.run_cons, Brush.run_nil, Statement.paint]
    rw [paint_method axes drawing.2.2.1 (Expr.paintEach_of_colorless given brush)]
    simp [paints, image]

/-- A series takes the color that it asks for off the palette and is painted with it. -/
theorem Fragment.run_eq {series : Series} {statements : List Statement}
    (drawn : Fragment axes series statements) (brush : Brush) :
    ∃ kept, brush.run statements =
      ⟨brush.taken + series.taken, kept, brush.painted ++ series.paints brush.taken⟩ := by
  cases drawn with
  | line trace values =>
      have numbers : ∀ item ∈ values.map Expr.numbers, item.Colorless :=
        List.forall_mem_map.mpr fun list _ => colorless_numbers list
      have drawing : "plot" ∈ drawNames := by decide
      have call := paint_draw axes drawing trace.color numbers
        (colorless_labelArgument trace.label) brush
      rw [List.append_assoc] at call
      exact ⟨brush.kept, call⟩
  | scatter trace x y =>
      have numbers : ∀ item ∈ [Expr.numbers x, .numbers y], item.Colorless := by
        simp [colorless_numbers]
      have drawing : "scatter" ∈ drawNames := by decide
      have call := paint_draw axes drawing trace.color numbers
        (colorless_labelArgument trace.label) brush
      rw [List.append_assoc, ← paint_register] at call
      exact ⟨brush.kept, call⟩
  | bar bars positions heights =>
      have drawing : bars.drawMethod ∈ drawNames := by
        cases horizontal : bars.horizontal <;> simp +decide [Bars.drawMethod, horizontal]
      have values : ∀ item ∈ [Expr.numbers positions, .numbers heights,
          .number bars.effectiveWidth], item.Colorless := by
        simp [colorless_numbers, colorless_number]
      have others : ∀ item ∈ bars.errorArgument ++ labelArgument bars.label, item.Colorless :=
        List.forall_mem_append.mpr
          ⟨colorless_errorArgument bars, colorless_labelArgument bars.label⟩
      have call := paint_draw axes drawing (some (bars.color.getD .blue)) values others brush
      have asks : (some (bars.color.getD .blue)).any Color.isPalette =
          (Series.bar bars).usesPalette := by
        rw [usesPalette, Series.color]
        cases bars.color <;> rfl
      rw [asks, ← paint_register] at call
      refine ⟨brush.kept, ?_⟩
      rw [Brush.run_cons, run_tickLabels, List.append_assoc]
      exact call
  | errorBand band x y errors =>
      obtain ⟨kept, taking, same⟩ := run_colorDraw band brush
      refine ⟨kept, ?_⟩
      have apart : "c" ≠ "x" ∧ "c" ≠ "y" ∧ "c" ≠ "e" := by decide
      simp only [Brush.run_append, taking, Brush.run_cons, Brush.run_nil,
        paint_bindArray apart.1, paint_bindArray apart.2.1, paint_bindArray apart.2.2]
      rw [paint_plot same, paint_fillStatement same]
      simp [paints]
  | matrix values =>
      refine ⟨brush.kept, ?_⟩
      have bound := paint_bindRows values brush
      rw [Matrix.bindRows] at bound
      rw [Brush.run_cons, bound, run_display]
      rfl

end

/-! ## The lines of one series -/

section

variable {axes : Axes} {series : Series} {statements : List Statement}

theorem palette_not_mem_names (plain : series.usesPalette = false) (axes : Axes) :
    "palette" ∉ series.names axes := by
  have words : "palette" ∉ drawingWords := by decide
  have own : "palette" ∉ series.locals := by
    intro member
    exact absurd (locals_subset member) (by decide)
  rcases axes.variableName_cases with same | same <;>
    simp [names, words, own, plain, same]

theorem drawingWords_ne_palette : ∀ name ∈ drawingWords, name ≠ "palette" := by decide

theorem takesOne_draw (axes : Axes) {field : String} (other : field ≠ "palette")
    {front back : List Expr} (first : ∀ item ∈ front, item.Uses (· ≠ "palette") fun _ => True)
    (last : ∀ item ∈ back, item.Uses (· ≠ "palette") fun _ => True) :
    TakesOne (Expr.method axes.expr field
      (front ++ colorArgument (some .palette) ++ back)).tokens := by
  have called : (Expr.member axes.expr field).Uses (· ≠ "palette") fun _ => True := by
    simp [Axes.expr, axes.variableName_ne_palette, other]
  have argument := Expr.takesOne_named (by decide : "color" ≠ "palette") Expr.takesOne_palette
  rw [List.append_assoc]
  exact Expr.takesOne_call (by simp) called first argument last

theorem takesOne_register {call : Expr} (one : TakesOne call.tokens) :
    TakesOne (register call).tokens := by
  have called : (Expr.member (.name "lines") "append").Uses (· ≠ "palette") fun _ => True := by
    simp
  have none : ∀ item ∈ ([] : List Expr), item.Uses (· ≠ "palette") fun _ => True := by simp
  exact Expr.takesOne_call (by simp) called none one none

theorem unpaletted_labelArgument (label : Option String) :
    ∀ item ∈ labelArgument label, item.Uses (· ≠ "palette") fun _ => True :=
  uses_labelArgument drawingWords_ne_palette fun _ _ => trivial

/-- The lines of these statements take as many colors off the palette. -/
def Takes (count : Nat) (statements : List Statement) : Prop :=
  (statements.map fun statement => paletteCalls statement.tokens).sum = count

theorem takes_of_unpaletted
    (free : ∀ statement ∈ statements, statement.Uses (· ≠ "palette") fun _ => True) :
    Takes 0 statements := by
  rw [Takes, List.sum_eq_zero_iff_forall_eq_nat, List.forall_mem_map]
  exact fun statement member => (free statement member).paletteCalls_eq_zero (by simp)

theorem takes_cons {statement : Statement} (one : TakesOne statement.tokens)
    (free : ∀ other ∈ statements, other.Uses (· ≠ "palette") fun _ => True) :
    Takes 1 (statement :: statements) := by
  have others := takes_of_unpaletted free
  rw [Takes] at others ⊢
  rw [List.map_cons, List.sum_cons, one.paletteCalls_eq, others]

/-- A series that asks for a color takes it off the palette in one of its lines. -/
theorem Fragment.takes_one (drawn : Fragment axes series statements)
    (asks : series.color = some .palette) : Takes 1 statements := by
  cases drawn with
  | line trace values =>
      have numbers : ∀ item ∈ values.map Expr.numbers,
          item.Uses (· ≠ "palette") fun _ => True := by
        simp
      have call := takesOne_draw axes (by decide : "plot" ≠ "palette") numbers
        (unpaletted_labelArgument trace.label)
      rw [← asks, List.append_assoc] at call
      exact takes_cons (Statement.takesOne_extend (by decide) call) (by simp)
  | scatter trace x y =>
      have numbers : ∀ item ∈ [Expr.numbers x, .numbers y],
          item.Uses (· ≠ "palette") fun _ => True := by
        simp
      have call := takesOne_draw axes (by decide : "scatter" ≠ "palette") numbers
        (unpaletted_labelArgument trace.label)
      rw [← asks, List.append_assoc] at call
      exact takes_cons (takesOne_register call) (by simp)
  | bar bars positions heights =>
      have method : bars.drawMethod ≠ "palette" := by
        cases horizontal : bars.horizontal <;> simp [Bars.drawMethod, horizontal]
      have values : ∀ item ∈ [Expr.numbers positions, .numbers heights,
          .number bars.effectiveWidth], item.Uses (· ≠ "palette") fun _ => True := by
        simp
      have others : ∀ item ∈ bars.errorArgument ++ labelArgument bars.label,
          item.Uses (· ≠ "palette") fun _ => True :=
        List.forall_mem_append.mpr ⟨uses_errorArgument bars drawingWords_ne_palette,
          unpaletted_labelArgument bars.label⟩
      have handle : axes.variableName ≠ "palette" := axes.variableName_ne_palette
      have color : bars.color.getD .blue = .palette := by
        rw [show bars.color = some .palette from asks]
        rfl
      have call := takesOne_draw axes method values others
      rw [← List.append_assoc] at call
      rw [color]
      exact takes_cons (takesOne_register call)
        (uses_tickLabels drawingWords_ne_palette handle positions fun _ _ => trivial)
  | errorBand band x y errors =>
      have asked : band.color = some .palette := asks
      have kept : TakesOne (Statement.assign ["c"] Color.palette.expr).tokens :=
        ⟨by decide, [.word "c", .mark '='], [], rfl⟩
      have handle : axes.variableName ≠ "palette" := axes.variableName_ne_palette
      have color : ∀ item ∈ band.colorArgument, item.Uses (· ≠ "palette") fun _ => True :=
        uses_bandColor drawingWords_ne_palette (fun _ => by decide) fun _ _ => trivial
      have fill := uses_fillStatement drawingWords_ne_palette handle (by decide) color
        fun _ _ => trivial
      have label := unpaletted_labelArgument band.label
      -- The first statement keeps the color in `c`, and all calls behind it read it from there.
      rw [Band.colorDraw, asked]
      refine takes_cons kept ?_
      simpa [Band.bindArray, Axes.expr, handle, fill, or_imp, forall_and] using
        And.intro color label
  | matrix values => contradiction

theorem Fragment.takes_none (drawn : Fragment axes series statements)
    (plain : series.usesPalette = false) : Takes 0 statements := by
  have absent : ∀ name ∈ series.names axes, name ≠ "palette" :=
    fun name member same => palette_not_mem_names plain axes (same ▸ member)
  exact takes_of_unpaletted (drawn.uses absent fun _ _ => trivial)

/-- The lines of a series take a color off the palette if the series asks for one. -/
theorem Fragment.takes (drawn : Fragment axes series statements) :
    Takes series.taken statements := by
  cases asks : series.usesPalette with
  | false =>
      rw [taken, asks]
      exact drawn.takes_none asks
  | true =>
      rw [taken, asks]
      exact drawn.takes_one (usesPalette_eq_true.mp asks)

end

end Series

end FigureScript
