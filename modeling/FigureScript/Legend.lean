import FigureScript.Script.Syntax

/-!
# Legend settings
-/

namespace FigureScript

inductive LegendPosition where
  | best
  | upperRight
  | upperLeft
  | lowerLeft
  | lowerRight
  | right
  | centerLeft
  | centerRight
  | lowerCenter
  | upperCenter
  | center
  deriving DecidableEq, Repr

namespace LegendPosition

/-- All positions in the order of their codes. -/
def all : List LegendPosition :=
  [best, upperRight, upperLeft, lowerLeft, lowerRight, right, centerLeft, centerRight, lowerCenter,
    upperCenter, center]

def code : LegendPosition → Nat
  | best => 0
  | upperRight => 1
  | upperLeft => 2
  | lowerLeft => 3
  | lowerRight => 4
  | right => 5
  | centerLeft => 6
  | centerRight => 7
  | lowerCenter => 8
  | upperCenter => 9
  | center => 10

def name : LegendPosition → String
  | best => "best"
  | upperRight => "upper_right"
  | upperLeft => "upper_left"
  | lowerLeft => "lower_left"
  | lowerRight => "lower_right"
  | right => "right"
  | centerLeft => "center_left"
  | centerRight => "center_right"
  | lowerCenter => "lower_center"
  | upperCenter => "upper_center"
  | center => "center"

def ofName? (text : String) : Option LegendPosition :=
  all.find? fun position => position.name = text

end LegendPosition

structure Legend where
  position : LegendPosition := .best
  fontSize : Float := 14.0
  deriving BEq, Repr

def Legend.arguments (legend : Legend) : List Expr :=
  [.named "fontsize" (.number legend.fontSize), .named "loc" (.natural legend.position.code)]

end FigureScript
