import FigureScript.Layout
import FigureScript.Series.Arguments
import FigureScript.Series.Writing

/-!
# Bars
-/

namespace FigureScript

inductive Categories where
  | numeric (positions : List Float)
  /-- Names for ticks; the bars stand at `0, 1, …`. -/
  | labels (names : List String)
  deriving BEq, Repr

structure Bars where
  values : Option (List Float) := none
  categories : Option Categories := none
  errors : Option (List Float) := none
  width : Option Float := none
  horizontal : Bool := false
  label : Option String := none
  color : Option Color := none
  cell : Cell := {}
  deriving BEq, Repr

namespace Bars

/-- The heights, or the lengths of horizontal bars. -/
def heights (bars : Bars) : Except SeriesError (List Float) :=
  match Given.list bars.values with
  | some values => .ok values
  | none => .error .noHeights

/-- Widths of smaller magnitude count as unset. -/
def leastWidth : Float := Binary64.ofScaled false 1 (-52)

def effectiveWidth (bars : Bars) : Float :=
  match bars.width with
  | some width => if leastWidth ≤ width.abs then width else Binary64.ofNat 1
  | none => Binary64.ofNat 1

def checkEntries (list : BarList) (entries values : Nat) : Except SeriesError Unit :=
  if entries = values then .ok () else .error (.unequalBars list entries values)

def check (bars : Bars) : Except SeriesError Unit := do
  let count := (← bars.heights).length
  match bars.categories with
  | some (.numeric positions) => checkEntries .positions positions.length count
  | some (.labels names) => checkEntries .categories names.length count
  | none => .ok ()
  match bars.errors with
  | some errors => checkEntries .errors errors.length count
  | none => .ok ()

def positions (bars : Bars) (heights : List Float) : List Float :=
  match bars.categories with
  | some (.numeric positions) => positions
  | _ => Series.ordinal heights.length

def drawMethod (bars : Bars) : String := if bars.horizontal then "barh" else "bar"

def errorArgument (bars : Bars) : List Expr :=
  match bars.errors with
  | some errors => [.named (if bars.horizontal then "xerr" else "yerr") (.numbers errors)]
  | none => []

def categoryAxis (bars : Bars) : String := if bars.horizontal then "y" else "x"

def tickLabels (bars : Bars) (axes : Axes) (positions : List Float) : List Statement :=
  match bars.categories with
  | some (.labels names) =>
    [.evaluate (.method axes.expr ("set_" ++ bars.categoryAxis ++ "ticks") [.numbers positions]),
      .evaluate (.method axes.expr ("set_" ++ bars.categoryAxis ++ "ticklabels")
        [.quotedList names])]
  | _ => []

def drawStatement (bars : Bars) (axes : Axes) (positions heights : List Float) : Statement :=
  let values : List Expr :=
    [.numbers positions, .numbers heights, .number bars.effectiveWidth,
      .named "color" (bars.color.getD .blue).expr]
  Series.register (.method axes.expr bars.drawMethod
    (values ++ bars.errorArgument ++ Series.labelArgument bars.label))

def draw (bars : Bars) (axes : Axes) : Except SeriesError (List Statement) := do
  bars.check
  let heights ← bars.heights
  let positions := bars.positions heights
  return bars.drawStatement axes positions heights :: bars.tickLabels axes positions

/-- Names go on ticks that are pinned to the positions of the bars. -/
def write (bars : Bars) (axes : Axes) : Writing Unit := do
  Writing.lift bars.check
  let heights ← Writing.lift bars.heights
  let positions := bars.positions heights
  Writing.line (bars.drawStatement axes positions heights)
  Writing.lines (bars.tickLabels axes positions)

end Bars

end FigureScript
