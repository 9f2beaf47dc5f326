import FigureScript.Figure.Decode

/-!
# Figures as JSON values

Every field is written, unset options as null, and members stand in the order of their names. JSON has
no number for a double that is not finite, so such a double becomes null.
-/

namespace FigureScript

namespace Json

def ofFloat (value : Float) : Json :=
  if Binary64.isFinite value then .number (.float value) else .null

def ofSize (value : UInt64) : Json := .number (.natural value)

def ofOption {α : Type} (encode : α → Json) : Option α → Json
  | some value => encode value
  | none => .null

def ofList {α : Type} (encode : α → Json) (values : List α) : Json := .array (values.map encode)

def ofPair (values : Float × Float) : Json := .array [ofFloat values.1, ofFloat values.2]

def ofNumbers (values : Option (List Float)) : Json := ofOption (ofList ofFloat) values

def ofText (value : Option String) : Json := ofOption .string value

end Json

open Json (ofFloat ofSize ofOption ofList ofPair ofNumbers ofText)

def Axis.toJson (axis : Axis) : Json :=
  .object [("label", ofText axis.label), ("limits", ofOption ofPair axis.limits)]

def Legend.toJson (legend : Legend) : Json :=
  .object [("font_size", ofFloat legend.fontSize), ("position", .string legend.position.name)]

def Style.toJson (style : Style) : Json :=
  .object [("dark", .boolean style.dark), ("grid", .boolean style.grid),
    ("styling", .boolean style.styling)]

def Cell.toJson (cell : Cell) : Json :=
  .object [("column", ofSize cell.column), ("row", ofSize cell.row)]

def Grid.toJson (grid : Grid) : Json :=
  .object [("columns", ofSize grid.columns), ("rows", ofSize grid.rows),
    ("share_x", .boolean grid.shareX), ("share_y", .boolean grid.shareY)]

def Color.toJson : Color → Json
  | palette => .string "palette"
  | named name => .object [("named", .string name)]

/-- Categories are a plain list; its items tell what they are. -/
def Categories.toJson : Categories → Json
  | numeric positions => ofList ofFloat positions
  | labels names => ofList .string names

def Trace.toJson (kind : SeriesKind) (trace : Trace) : Json :=
  .object [("color", ofOption Color.toJson trace.color), ("kind", .string kind.name),
    ("label", ofText trace.label), ("position", trace.cell.toJson), ("x", ofNumbers trace.x),
    ("y", ofNumbers trace.y)]

def Bars.toJson (bars : Bars) : Json :=
  .object [("categories", ofOption Categories.toJson bars.categories),
    ("color", ofOption Color.toJson bars.color), ("errors", ofNumbers bars.errors),
    ("horizontal", .boolean bars.horizontal), ("kind", .string SeriesKind.bar.name),
    ("label", ofText bars.label), ("position", bars.cell.toJson),
    ("values", ofNumbers bars.values), ("width", ofOption ofFloat bars.width)]

def Band.toJson (band : Band) : Json :=
  .object [("alpha", ofOption ofFloat band.alpha), ("color", ofOption Color.toJson band.color),
    ("error_label", ofText band.errorLabel), ("errors", ofNumbers band.errors),
    ("kind", .string SeriesKind.errorBand.name), ("label", ofText band.label),
    ("position", band.cell.toJson), ("x", ofNumbers band.x), ("y", ofNumbers band.y)]

def Matrix.toJson (matrix : Matrix) : Json :=
  .object [("color_map", ofText matrix.colorMap), ("hinton", .boolean matrix.hinton),
    ("kind", .string SeriesKind.matrix.name), ("label", ofText matrix.label),
    ("position", matrix.cell.toJson), ("values", ofList (ofList ofFloat) matrix.values)]

def Series.toJson : Series → Json
  | line trace => trace.toJson .line
  | scatter trace => trace.toJson .scatter
  | bar bars => bars.toJson
  | errorBand band => band.toJson
  | matrix values => values.toJson

def TwinAxis.toJson (twin : TwinAxis) : Json :=
  .object [("series", ofList Series.toJson twin.series), ("y_axis", twin.yAxis.toJson)]

def Figure.toJson (figure : Figure) : Json :=
  .object [("block", .boolean figure.block), ("legend", figure.legend.toJson),
    ("output_name", ofText figure.outputName), ("series", ofList Series.toJson figure.series),
    ("show", .boolean figure.showWindow), ("size", ofOption ofPair figure.size),
    ("style", figure.style.toJson), ("subplots", ofOption Grid.toJson figure.subplots),
    ("tick_label_size", ofOption ofFloat figure.tickLabelSize), ("tight", .boolean figure.tight),
    ("title", ofText figure.title), ("twin", ofOption TwinAxis.toJson figure.twin),
    ("x_axis", figure.xAxis.toJson), ("y_axis", figure.yAxis.toJson)]

end FigureScript
