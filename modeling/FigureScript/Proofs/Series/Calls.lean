import FigureScript.Proofs.Script.Calls
import FigureScript.Proofs.Series.Drawing

namespace FigureScript

/-! # The calls that draw

What a statement draws, and by which calls a series is drawn.
-/

/-- The calls that draw, and `sca`, which names the axes for the drawing call behind it. -/
def drawNames : List String :=
  ["plot", "scatter", "bar", "barh", "fill_between", "matshow", "sca", "hinton"]

namespace Call

/-- What a call acts on: the object of a method, or the first argument of a function. -/
def target (call : Call) : Option Expr :=
  match call.function with
  | .member object _ => some object
  | _ => call.arguments.head?

def drawing (call : Call) : List (Expr × String) :=
  if call.name ∈ drawNames then call.target.toList.map fun target => (target, call.name) else []

@[simp] theorem drawing_method (object : Expr) (field : String) (items : List Expr) :
    drawing ⟨.member object field, items⟩ = if field ∈ drawNames then [(object, field)] else [] :=
  rfl

@[simp] theorem drawing_function (function : String) (items : List Expr) :
    drawing ⟨.name function, items⟩ =
      if function ∈ drawNames then items.head?.toList.map fun target => (target, function)
      else [] := rfl

end Call

def Expr.drawCalls (expression : Expr) : List (Expr × String) :=
  expression.calls.flatMap Call.drawing

def Statement.drawCalls (statement : Statement) : List (Expr × String) :=
  statement.calls.flatMap Call.drawing

@[simp] theorem Statement.drawCalls_assign (targets : List String) (value : Expr) :
    (assign targets value).drawCalls = value.drawCalls := rfl

@[simp] theorem Statement.drawCalls_extend (target : String) (value : Expr) :
    (extend target value).drawCalls = value.drawCalls := rfl

@[simp] theorem Statement.drawCalls_evaluate (value : Expr) :
    (evaluate value).drawCalls = value.drawCalls := rfl

/-- What uses none of the names that draw does not draw. -/
theorem Confined.drawCalls_eq_nil {names : List String} {quote : String → Prop}
    {statements : List Statement} (confined : Confined names quote statements)
    (apart : ∀ name ∈ names, name ∉ drawNames) :
    statements.flatMap Statement.drawCalls = [] := by
  refine List.flatMap_eq_nil_iff.mpr fun statement member => ?_
  refine List.flatMap_eq_nil_iff.mpr fun call inside => if_neg fun draws => ?_
  have named : call.name ≠ "" := fun same => absurd (same ▸ draws) (by decide)
  exact apart _ ((confined statement member).of_calls inside named) draws

namespace Expr

@[simp] theorem drawCalls_name (identifier : String) : (name identifier).drawCalls = [] := rfl

@[simp] theorem drawCalls_number (value : Float) : (number value).drawCalls = [] := rfl

@[simp] theorem drawCalls_quoted (value : String) : (quoted value).drawCalls = [] := rfl

@[simp] theorem drawCalls_numbers (values : List Float) : (numbers values).drawCalls = [] := by
  simp [drawCalls]

@[simp] theorem drawCalls_numberRows (rows : List (List Float)) :
    (numberRows rows).drawCalls = [] := by
  simp [drawCalls]

@[simp] theorem drawCalls_quotedList (values : List String) :
    (quotedList values).drawCalls = [] := by
  simp [drawCalls]

@[simp] theorem drawCalls_named (parameter : String) (value : Expr) :
    (named parameter value).drawCalls = value.drawCalls := rfl

@[simp] theorem drawCalls_call (function : Expr) (items : List Expr) :
    (call function items).drawCalls =
      Call.drawing ⟨function, items⟩ ++ (function.drawCalls ++ items.flatMap drawCalls) := by
  simp only [drawCalls, calls, callsEach_eq_flatMap, List.flatMap_cons, List.flatMap_append,
    List.flatMap_assoc]
  rfl

@[simp] theorem drawCalls_method (object : Expr) (field : String) (items : List Expr) :
    (method object field items).drawCalls =
      Call.drawing ⟨.member object field, items⟩ ++
        (object.drawCalls ++ items.flatMap drawCalls) :=
  drawCalls_call (.member object field) items

end Expr

namespace Series

/-- The calls that draw a series: an error band is a line and an area, and a Hinton diagram is drawn
on the axes that were named just before. -/
def drawCalls (axes : Expr) : Series → List (Expr × String)
  | line _ => [(axes, "plot")]
  | scatter _ => [(axes, "scatter")]
  | bar bars => [(axes, bars.drawMethod)]
  | errorBand _ => [(axes, "plot"), (axes, "fill_between")]
  | matrix values =>
    if values.hinton then [(axes, "sca"), (.name "special", "hinton")] else [(axes, "matshow")]

@[simp] theorem drawCalls_color (color : Color) : color.expr.drawCalls = [] := by
  cases color with
  | palette => decide +kernel
  | named name => rfl

@[simp] theorem drawCalls_colorArgument (color : Option Color) :
    (colorArgument color).flatMap Expr.drawCalls = [] := by
  cases color <;> simp [colorArgument]

@[simp] theorem drawCalls_labelArgument (label : Option String) :
    (labelArgument label).flatMap Expr.drawCalls = [] := by
  cases given : Given.text label <;> simp [labelArgument, given]

@[simp] theorem drawCalls_errorArgument (bars : Bars) :
    bars.errorArgument.flatMap Expr.drawCalls = [] := by
  cases errors : bars.errors <;> simp [Bars.errorArgument, errors]

@[simp] theorem drawCalls_axes (axes : Axes) : axes.expr.drawCalls = [] := rfl

theorem drawCalls_bandColor (band : Band) :
    band.colorDraw.flatMap Statement.drawCalls = [] ∧
      band.colorArgument.flatMap Expr.drawCalls = [] := by
  cases color : band.color with
  | none => simp [Band.colorDraw, Band.colorArgument, color]
  | some choice =>
      cases choice <;> simp [Band.colorDraw, Band.colorArgument, color]

/-- The calls of a fragment that draw are those of its series. -/
theorem Fragment.drawCalls_eq {axes : Axes} {series : Series} {statements : List Statement}
    (drawn : Fragment axes series statements) :
    statements.flatMap Statement.drawCalls = series.drawCalls axes.expr := by
  cases drawn with
  | line trace values =>
      simp +decide [Series.drawCalls, Trace.options, List.flatMap_map]
  | scatter trace x y =>
      simp +decide [Series.drawCalls, register, Trace.options]
  | bar bars positions heights =>
      have method : bars.drawMethod ∈ drawNames := by
        cases horizontal : bars.horizontal <;> simp +decide [Bars.drawMethod, horizontal]
      have ticks : (bars.tickLabels axes positions).flatMap Statement.drawCalls = [] := by
        unfold Bars.tickLabels
        split
        · cases horizontal : bars.horizontal <;> simp +decide [Bars.categoryAxis, horizontal]
        · rfl
      simp +decide [Series.drawCalls, register, method, ticks]
  | errorBand band x y errors =>
      obtain ⟨picked, color⟩ := drawCalls_bandColor band
      have area : (band.fillStatement axes).drawCalls = [(axes.expr, "fill_between")] := by
        unfold Band.fillStatement
        split <;> simp +decide [register, Band.fill, color]
      simp +decide [Series.drawCalls, Band.bindArray, picked, color, area]
  | matrix values =>
      cases hinton : values.hinton <;>
        simp +decide [Series.drawCalls, Matrix.display, hinton]

end Series

end FigureScript
