import Mathlib.Data.List.Basic
import Mathlib.Data.Option.Basic
import FigureScript.Figure.Decode
import FigureScript.Proofs.Series.NormalForm

namespace FigureScript

/-! # Normal forms are told apart by their statements

Every part of a normal form is found again in the statements that draw it: the kind by their number and
the first of them, lists and options among the arguments of the calls. Main statement: different normal
forms are drawn by different statements.
-/

namespace Expr

/-- The value of the first argument with a name. -/
def argument? (parameter : String) (items : List Expr) : Option Expr :=
  items.findSome? fun
    | .named given value => if given = parameter then some value else none
    | _ => none

variable {parameter other : String} {first second : List Expr} {value next : Option Expr}

@[simp] theorem argument?_append :
    argument? parameter (first ++ second) =
      (argument? parameter first).or (argument? parameter second) :=
  List.findSome?_append

@[simp] theorem argument?_numbers (lists : List (List Float)) :
    argument? parameter (lists.map numbers) = none := by
  simp [argument?, numbers]

@[simp] theorem argument?_optional :
    argument? parameter (optional other value) = if other = parameter then value else none := by
  cases value <;> simp [argument?, optional]

/-- Two optional arguments are told apart by their names, behind lists of numbers. -/
theorem optional_inj (lists others : List (List Float))
    {value otherValue next otherNext : Option Expr}
    (apart : parameter ≠ other)
    (same : lists.map numbers ++ (optional parameter value ++ optional other next) =
      others.map numbers ++ (optional parameter otherValue ++ optional other otherNext)) :
    lists.map numbers = others.map numbers ∧ value = otherValue ∧ next = otherNext := by
  have values : value = otherValue := by
    simpa [apart.symm] using congrArg (argument? parameter) same
  have nexts : next = otherNext := by
    simpa [apart] using congrArg (argument? other) same
  subst values nexts
  exact ⟨List.append_cancel_right same, rfl, rfl⟩

theorem number_injective : Function.Injective number := fun _ _ same => Expr.number.inj same

theorem quoted_injective : Function.Injective quoted := fun _ _ same => Expr.quoted.inj same

theorem numbers_injective : Function.Injective numbers :=
  fun _ _ same => List.map_injective_iff.mpr number_injective (Expr.list.inj same)

theorem quotedList_injective : Function.Injective quotedList :=
  fun _ _ same => List.map_injective_iff.mpr quoted_injective (Expr.list.inj same)

theorem numberRows_injective : Function.Injective numberRows :=
  fun _ _ same => List.map_injective_iff.mpr numbers_injective (Expr.list.inj same)

theorem method_inj {object : Expr} {field other : String} {items others : List Expr}
    (same : method object field items = method object other others) :
    field = other ∧ items = others := by
  simpa [method] using same

end Expr

theorem Color.expr_injective : Function.Injective Color.expr := by
  intro color other same
  cases color <;> cases other <;> simp_all [Color.expr]

namespace Series

theorem register_inj {call other : Expr} (same : register call = register other) : call = other :=
  (List.cons.inj (Expr.method_inj (Statement.evaluate.inj same)).2).1

namespace NormalForm

variable {axes : Axes} {x otherX : Option (List Float)} {y otherY : List Float}
  {color otherColor : Option Color} {label otherLabel : Option String}

theorem bandColor_injective : Function.Injective bandColor := by
  intro color other same
  cases color <;> cases other <;> simp_all [bandColor]

theorem options_inj (lists others : List (List Float)) {shade otherShade : Option Expr}
    (same : lists.map Expr.numbers ++ options shade label =
      others.map Expr.numbers ++ options otherShade otherLabel) :
    lists = others ∧ shade = otherShade ∧ label = otherLabel := by
  obtain ⟨values, shades, labels⟩ := Expr.optional_inj lists others (by decide) same
  exact ⟨List.map_injective_iff.mpr Expr.numbers_injective values, shades,
    Option.map_injective Expr.quoted_injective labels⟩

theorem line_inj
    (same : (line x y color label).statements axes =
      (line otherX otherY otherColor otherLabel).statements axes) :
    line x y color label = line otherX otherY otherColor otherLabel := by
  obtain ⟨_, arguments⟩ := Expr.method_inj (Statement.extend.inj (List.cons.inj same).1).2
  obtain ⟨points, colors, rfl⟩ := options_inj _ _ arguments
  obtain ⟨given, values⟩ := List.append_inj' points rfl
  have xs : x = otherX := by simpa using congrArg List.head? given
  rw [xs, List.singleton_inj.mp values, Option.map_injective Color.expr_injective colors]

theorem scatter_inj {x otherX : List Float}
    (same : (scatter x y color label).statements axes =
      (scatter otherX otherY otherColor otherLabel).statements axes) :
    scatter x y color label = scatter otherX otherY otherColor otherLabel := by
  obtain ⟨_, arguments⟩ := Expr.method_inj (register_inj (List.cons.inj same).1)
  obtain ⟨points, colors, rfl⟩ := options_inj [x, y] [otherX, otherY] arguments
  obtain ⟨rfl, rfl⟩ : x = otherX ∧ y = otherY := by simpa using points
  rw [Option.map_injective Color.expr_injective colors]

theorem tickLabels_inj {axis : String} {positions : List Float}
    {names others : Option (List String)}
    (same : tickLabels axes axis positions names = tickLabels axes axis positions others) :
    names = others := by
  cases names with
  | none => cases others <;> simp_all [tickLabels]
  | some names =>
      cases others with
      | none => simp [tickLabels] at same
      | some others =>
          have labels := (List.cons.inj (List.cons.inj same).2).1
          obtain ⟨_, items⟩ := Expr.method_inj (Statement.evaluate.inj labels)
          rw [Expr.quotedList_injective (List.cons.inj items).1]

theorem bar_inj {positions otherPositions heights otherHeights : List Float}
    {width otherWidth : Float} {horizontal otherHorizontal : Bool}
    {errors otherErrors : Option (List Float)} {color otherColor : Color}
    {names otherNames : Option (List String)}
    (same : (bar positions heights width horizontal errors color names label).statements axes =
      (bar otherPositions otherHeights otherWidth otherHorizontal otherErrors otherColor otherNames
        otherLabel).statements axes) :
    bar positions heights width horizontal errors color names label =
      bar otherPositions otherHeights otherWidth otherHorizontal otherErrors otherColor otherNames
        otherLabel := by
  obtain ⟨first, ticks⟩ := List.cons.inj same
  obtain ⟨methods, arguments⟩ := Expr.method_inj (register_inj first)
  obtain rfl : horizontal = otherHorizontal := by
    cases horizontal <;> cases otherHorizontal <;> simp at methods ⊢
  have apart : (if horizontal then "xerr" else "yerr") ≠ "label" := by cases horizontal <;> decide
  simp only [List.cons_append, List.nil_append, List.cons.injEq, Expr.numbers_injective.eq_iff,
    Expr.number.injEq, Expr.named.injEq, Color.expr_injective.eq_iff, true_and] at arguments
  obtain ⟨rfl, rfl, rfl, rfl, optional⟩ := arguments
  obtain ⟨_, spans, labels⟩ := Expr.optional_inj [] [] apart optional
  rw [Option.map_injective Expr.numbers_injective spans,
    Option.map_injective Expr.quoted_injective labels, tickLabels_inj ticks]

theorem area_inj {alpha otherAlpha : Float}
    (same : area axes alpha color label = area axes otherAlpha otherColor otherLabel) :
    alpha = otherAlpha ∧ label = otherLabel := by
  obtain ⟨_, arguments⟩ := Expr.method_inj same
  simp only [List.cons_append, List.nil_append, List.cons.injEq, Expr.named.injEq,
    Expr.number.injEq, true_and] at arguments
  exact ⟨arguments.1, (options_inj [] [] arguments.2).2.2⟩

/-- Only an area with a text of its own is registered. -/
theorem fill_inj {alpha otherAlpha : Float}
    (same : fill axes alpha color label = fill axes otherAlpha otherColor otherLabel) :
    alpha = otherAlpha ∧ label = otherLabel := by
  cases label with
  | none =>
      cases otherLabel with
      | none => exact area_inj (Statement.evaluate.inj same)
      | some text => simp [fill, area, register, Expr.method] at same
  | some text =>
      cases otherLabel with
      | none => simp [fill, area, register, Expr.method] at same
      | some text => exact area_inj (register_inj same)

theorem bindArray_inj {name : String} {values others : List Float}
    (same : Band.bindArray name values = Band.bindArray name others) : values = others := by
  simpa [Band.bindArray, Expr.numbers_injective.eq_iff] using same

theorem errorBand_inj {values otherValues : BandValues} {alpha otherAlpha : Float}
    {errorLabel otherErrorLabel : Option String}
    (same : (errorBand values alpha color label errorLabel).statements axes =
      (errorBand otherValues otherAlpha otherColor otherLabel otherErrorLabel).statements axes) :
    errorBand values alpha color label errorLabel =
      errorBand otherValues otherAlpha otherColor otherLabel otherErrorLabel := by
  have parts := (List.append_inj' same rfl).2
  simp only [List.cons.injEq] at parts
  obtain ⟨x, y, errors, line, area, _⟩ := parts
  obtain ⟨_, arguments⟩ := Expr.method_inj (Statement.extend.inj line).2
  simp only [List.cons_append, List.nil_append, List.cons.injEq, true_and] at arguments
  obtain ⟨_, colors, labels⟩ := options_inj [] [] arguments
  obtain ⟨alphas, errorLabels⟩ := fill_inj area
  have lists : values = otherValues := by
    obtain ⟨_, _, _⟩ := values
    obtain ⟨_, _, _⟩ := otherValues
    rw [BandValues.mk.injEq]
    exact ⟨bindArray_inj x, bindArray_inj y, bindArray_inj errors⟩
  rw [lists, alphas, Option.map_injective bandColor_injective colors, labels, errorLabels]

theorem display_inj {colorMap otherColorMap : Option String}
    (same : display axes colorMap = display axes otherColorMap) : colorMap = otherColorMap := by
  cases colorMap <;> cases otherColorMap <;> simp_all [display, Expr.method]

theorem matrix_inj {values otherValues : List (List Float)} {colorMap otherColorMap : Option String}
    (same : (matrix values colorMap).statements axes =
      (matrix otherValues otherColorMap).statements axes) :
    matrix values colorMap = matrix otherValues otherColorMap := by
  obtain ⟨first, shown⟩ := List.cons.inj same
  simp only [Statement.assign.injEq, Expr.call.injEq, List.cons.injEq, and_true, true_and,
    Expr.numberRows_injective.eq_iff] at first
  rw [first, display_inj shown]

def kind : NormalForm → SeriesKind
  | line .. => .line
  | scatter .. => .scatter
  | bar .. => .bar
  | errorBand .. => .errorBand
  | matrix .. => .matrix

/-- The kind, read off the number of statements and the first of them. -/
def kindOf (statements : List Statement) : Option SeriesKind :=
  if 5 ≤ statements.length then some .errorBand
  else
    match statements with
    | .extend .. :: _ => some .line
    | .assign .. :: _ => some .matrix
    | .evaluate (.call _ [.call (.member _ method) _]) :: _ =>
      some (if method = "scatter" then .scatter else .bar)
    | _ => none

theorem kindOf_statements (form : NormalForm) (axes : Axes) :
    kindOf (form.statements axes) = some form.kind := by
  cases form with
  | line | scatter => rfl
  | bar positions heights width horizontal errors color names label =>
      cases names <;> cases horizontal <;> rfl
  | errorBand values alpha color label errorLabel =>
      exact if_pos (by simp [statements])
  | matrix values colorMap => cases colorMap <;> rfl

theorem statements_injective (axes : Axes) : Function.Injective (statements axes) := by
  intro form other same
  have kinds : form.kind = other.kind := by
    have read := form.kindOf_statements axes
    rw [same, other.kindOf_statements axes] at read
    exact (Option.some.inj read).symm
  cases form with
  | line =>
      cases other with
      | line => exact line_inj same
      | _ => cases kinds
  | scatter =>
      cases other with
      | scatter => exact scatter_inj same
      | _ => cases kinds
  | bar =>
      cases other with
      | bar => exact bar_inj same
      | _ => cases kinds
  | errorBand =>
      cases other with
      | errorBand => exact errorBand_inj same
      | _ => cases kinds
  | matrix =>
      cases other with
      | matrix => exact matrix_inj same
      | _ => cases kinds

end NormalForm

end Series

end FigureScript
