import FigureScript.Figure.Basic
import FigureScript.Json.Record

/-!
# Figures in JSON values

How a figure and its parts are read. An unset option may be missing or null; every other field takes
its default only when it is missing.
-/

namespace FigureScript

open Json (Decoder Place Record DataFault)
open Json.Record (field)

def Axis.record : Record Axis where
  type := "struct AxisConfig"
  fields := ["label", "limits"]
  read members := do
    let label ← field members "label" (.optional .text) none
    let limits ← field members "limits" (.optional (.pair .float)) none
    return { label, limits }

def LegendPosition.decode : Decoder LegendPosition :=
  Json.variant (LegendPosition.all.map LegendPosition.name) fun name content => do
    Json.noContent .document content
    return (LegendPosition.ofName? name).getD .best

def Legend.record : Record Legend where
  type := "struct Legend"
  fields := ["position", "font_size"]
  read members := do
    let fontSize ← field members "font_size" .float ({} : Legend).fontSize
    let position ← field members "position" LegendPosition.decode .best
    return { position, fontSize }

def Style.record : Record Style where
  type := "struct StyleConfig"
  fields := ["styling", "dark", "grid"]
  read members := do
    let dark ← field members "dark" .truth true
    let grid ← field members "grid" .truth true
    let styling ← field members "styling" .truth true
    return { styling, dark, grid }

def Cell.record : Record Cell where
  type := "struct Position"
  fields := ["row", "column"]
  read members := do
    let column ← field members "column" .size 0
    let row ← field members "row" .size 0
    return { row, column }

/-- A grid whose sides may still be missing. -/
structure PartialGrid where
  rows : Option UInt64
  columns : Option UInt64
  shareX : Bool
  shareY : Bool

def PartialGrid.record : Record PartialGrid where
  type := "struct SubplotSpec"
  fields := ["rows", "columns", "share_x", "share_y"]
  read members := do
    let columns ← field members "columns" (fun value => (Decoder.size value).map some) none
    let rows ← field members "rows" (fun value => (Decoder.size value).map some) none
    let shareX ← field members "share_x" .truth false
    let shareY ← field members "share_y" .truth false
    return { rows, columns, shareX, shareY }

namespace Grid

/-- Both sides of a grid must be given. -/
def ofPartial (missing : String → DataFault) (grid : PartialGrid) : Except DataFault Grid :=
  match grid.rows, grid.columns with
  | some rows, some columns => .ok { rows, columns, shareX := grid.shareX, shareY := grid.shareY }
  | none, _ => .error (missing "rows")
  | some _, none => .error (missing "columns")

def decode : Decoder Grid
  | .array items => do
    let grid ← PartialGrid.record.decode .document (.array items)
    ofPartial (fun _ => .wrongLength items.length "struct SubplotSpec with 4 elements") grid
  | value => do
    let grid ← PartialGrid.record.decode .document value
    ofPartial .missingField grid

end Grid

/-- A color is the palette or a name of its own. -/
def Color.decode : Decoder Color :=
  Json.variant ["palette", "named"] fun name content =>
    if name = "palette" then do
      Json.noContent .tagged content
      return .palette
    else
      match content with
      | some content => (Decoder.text content).map Color.named
      | none => .error (.wrongType .bareVariant "newtype variant")

/-- Categories are told apart by their items; an empty list holds positions. -/
def Categories.decode : Decoder Categories := fun value =>
  match Decoder.list .float value with
  | .ok positions => .ok (.numeric positions)
  | .error _ =>
    match Decoder.list .text value with
    | .ok names => .ok (.labels names)
    | .error _ => .error (.noAlternative "Categories")

def optionalNumbers : Decoder (Option (List Float)) := .optional (.list .float)

def Trace.record : Record Trace where
  type := "struct LineSeries"
  fields := ["x", "y", "label", "color", "position"]
  read members := do
    let color ← field members "color" (.optional Color.decode) none
    let label ← field members "label" (.optional .text) none
    let cell ← field members "position" (Cell.record.decode .tagged) {}
    let x ← field members "x" optionalNumbers none
    let y ← field members "y" optionalNumbers none
    return { x, y, label, color, cell }

def Bars.record : Record Bars where
  type := "struct BarSeries"
  fields :=
    ["values", "categories", "errors", "width", "horizontal", "label", "color", "position"]
  read members := do
    let categories ← field members "categories" (.optional Categories.decode) none
    let color ← field members "color" (.optional Color.decode) none
    let errors ← field members "errors" optionalNumbers none
    let horizontal ← field members "horizontal" .truth false
    let label ← field members "label" (.optional .text) none
    let cell ← field members "position" (Cell.record.decode .tagged) {}
    let values ← field members "values" optionalNumbers none
    let width ← field members "width" (.optional .float) none
    return { values, categories, errors, width, horizontal, label, color, cell }

def Band.record : Record Band where
  type := "struct ErrorBandSeries"
  fields := ["x", "y", "errors", "alpha", "error_label", "label", "color", "position"]
  read members := do
    let alpha ← field members "alpha" (.optional .float) none
    let color ← field members "color" (.optional Color.decode) none
    let errorLabel ← field members "error_label" (.optional .text) none
    let errors ← field members "errors" optionalNumbers none
    let label ← field members "label" (.optional .text) none
    let cell ← field members "position" (Cell.record.decode .tagged) {}
    let x ← field members "x" optionalNumbers none
    let y ← field members "y" optionalNumbers none
    return { x, y, errors, alpha, errorLabel, label, color, cell }

def Matrix.record : Record Matrix where
  type := "struct MatrixSeries"
  fields := ["values", "color_map", "hinton", "label", "position"]
  read members := do
    let colorMap ← field members "color_map" (.optional .text) none
    let hinton ← field members "hinton" .truth false
    let label ← field members "label" (.optional .text) none
    let cell ← field members "position" (Cell.record.decode .tagged) {}
    let values ← field members "values" (.list (.list .float)) []
    return { values, colorMap, hinton, label, cell }

inductive SeriesKind where
  | line
  | scatter
  | bar
  | errorBand
  | matrix
  deriving DecidableEq, Repr

namespace SeriesKind

def all : List SeriesKind := [line, scatter, bar, errorBand, matrix]

def name : SeriesKind → String
  | line => "line"
  | scatter => "scatter"
  | bar => "bar"
  | errorBand => "error_band"
  | matrix => "matrix"

def decode : Decoder SeriesKind
  | .string text =>
    match all.find? fun kind => kind.name = text with
    | some kind => .ok kind
    | none => .error (.unknownVariant text (all.map name))
  | other => Decoder.mismatch "variant identifier" other

def content (kind : SeriesKind) (value : Json) : Except DataFault Series :=
  match kind with
  | line => (Trace.record.decode .tagged value).map .line
  | scatter => (Trace.record.decode .tagged value).map .scatter
  | bar => (Bars.record.decode .tagged value).map .bar
  | errorBand => (Band.record.decode .tagged value).map .errorBand
  | matrix => (Matrix.record.decode .tagged value).map .matrix

end SeriesKind

/-- A series is an object with its kind among the members, or an array that begins with the kind. -/
def Series.decode : Decoder Series
  | .object members =>
    match Json.lookup "kind" members with
    | some tag => do
      let kind ← SeriesKind.decode tag
      kind.content (.object members)
    | none => .error (.missingField "kind")
  | .array (tag :: items) => do
    let kind ← SeriesKind.decode tag
    kind.content (.array items)
  | .array [] => .error (.missingField "kind")
  | other => Decoder.mismatch "internally tagged enum Series" other

def TwinAxis.record : Record TwinAxis where
  type := "struct TwinAxis"
  fields := ["y_axis", "series"]
  read members := do
    let series ← field members "series" (.list Series.decode) []
    let yAxis ← field members "y_axis" (Axis.record.decode .document) {}
    return { yAxis, series }

def Figure.record : Record Figure where
  type := "struct Figure"
  fields :=
    ["title", "x_axis", "y_axis", "legend", "style", "twin", "subplots", "series", "output_name",
      "size", "tick_label_size", "tight", "show", "block"]
  read members := do
    let block ← field members "block" .truth true
    let legend ← field members "legend" (Legend.record.decode .document) {}
    let outputName ← field members "output_name" (.optional .text) none
    let series ← field members "series" (.list Series.decode) []
    let showWindow ← field members "show" .truth true
    let size ← field members "size" (.optional (.pair .float)) none
    let style ← field members "style" (Style.record.decode .document) {}
    let subplots ← field members "subplots" (.optional Grid.decode) none
    let tickLabelSize ← field members "tick_label_size" (.optional .float) none
    let tight ← field members "tight" .truth false
    let title ← field members "title" (.optional .text) none
    let twin ← field members "twin" (.optional (TwinAxis.record.decode .document)) none
    let xAxis ← field members "x_axis" (Axis.record.decode .document) {}
    let yAxis ← field members "y_axis" (Axis.record.decode .document) {}
    return { title, xAxis, yAxis, legend, style, twin, subplots, series, outputName, size,
             tickLabelSize, tight, showWindow, block }

def Figure.ofJson : Decoder Figure := Figure.record.decode .document

end FigureScript
