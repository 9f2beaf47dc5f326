import FigureScript.Figure.Encode
import FigureScript.Schema.Check

/-!
# The schema of figure descriptions

One definition for every part of a figure. Defaults are written as the parts themselves are, so they
are the ones that reading takes.
-/

namespace FigureScript.FigureSchema

def truth (default : Bool) : Schema := [.type [.boolean], .default (.boolean default)]

def describedTruth (description : String) (default : Bool) : Schema :=
  .description description :: truth default

def optionalText (description : String) : Schema :=
  [.description description, .type [.string, .null], .default .null]

def number : Schema := [.type [.number], .format "double"]

def optionalNumber (description : String) : Schema :=
  [.description description, .type [.number, .null], .format "double", .default .null]

def optionalNumbers (description : String) : Schema :=
  [.description description, .type [.array, .null], .default .null, .items number]

def optionalPair (description : String) : Schema :=
  [.description description, .type [.array, .null], .default .null, .maxItems 2, .minItems 2,
    .prefixItems [number, number]]

def optional (description name : String) (definition : Schema) : Schema :=
  [.description description, .anyOf [[.reference name definition], [.type [.null]]],
    .default .null]

def required (description name : String) (definition : Schema) (default : Json) : Schema :=
  [.description description, .reference name definition, .default default]

def record (description : String) (members : List (String × Schema)) : Schema :=
  [.description description, .type [.object], .properties members]

def axis : Schema :=
  record "Label and limits of one axis."
    [("label", optionalText "Axis label"), ("limits", optionalPair "Manual limits (min, max)")]

def categories : Schema :=
  [.description "Bar positions along the independent axis.",
    .anyOf [
      [.description "Numeric positions, used as given", .type [.array], .items number],
      [.description
          "Text categories; bars go at ordinal positions and these become tick labels",
        .type [.array], .items [.type [.string]]]]]

def color : Schema :=
  [.description "Color argument for a draw call.",
    .oneOf [
      [.description "Next color of the seaborn palette cycle; needs styling enabled",
        .type [.string], .const "palette"],
      [.description "Any matplotlib color spec (e.g. \"r\", \"C2\", \"#ff8800\")",
        .type [.object], .properties [("named", [.type [.string]])], .closed ["named"],
        .required ["named"]]]]

def size (default : Option UInt64) : Schema :=
  [.type [.integer], .format "uint"] ++
    (match default with
      | some value => [.default (Json.ofSize value)]
      | none => []) ++
    [.minimum 0]

def cell : Schema :=
  record "Subplot cell a series is drawn into."
    [("column", size (some 0)), ("row", size (some 0))]

def cellField : Schema := required "Subplot cell" "Position" cell (Cell.toJson {})

def colorField (description : String) : Schema := optional description "Color" color

def labelField : Schema := optionalText "Label for legend"

def bars : Schema :=
  record "Vertical or horizontal bars."
    [("categories", optional "Bar positions or category names" "Categories" categories),
      ("color", colorField "Bar color; defaults to blue"),
      ("errors", optionalNumbers "Per-bar error magnitudes"),
      ("horizontal", describedTruth "Draw horizontal bars" false),
      ("label", labelField),
      ("position", cellField),
      ("values", optionalNumbers "Bar heights (or lengths when horizontal)"),
      ("width", optionalNumber "Bar width; unset or zero means 1.0")]

def band : Schema :=
  record "A centre line with a filled band spanning `[y - e, y + e]`."
    [("alpha", optionalNumber "Band transparency; defaults to 0.1"),
      ("color", colorField "Color of both the line and the band"),
      ("error_label", optionalText "Legend label for the band itself"),
      ("errors", optionalNumbers "Error magnitudes"),
      ("label", labelField),
      ("position", cellField),
      ("x", optionalNumbers "Independent values; become `y` when no dependent values are given"),
      ("y", optionalNumbers "Dependent values")]

def legendPosition : Schema :=
  [.description "Position of the legend, in matplotlib `loc` code order.",
    .oneOf [
      [.type [.string],
        .enumeration ((LegendPosition.all.filter (· ≠ .best)).map LegendPosition.name)],
      [.description "Let matplotlib pick the least crowded spot", .type [.string],
        .const LegendPosition.best.name]]]

def legend : Schema :=
  record "Legend settings shared by every legend call of a figure."
    [("font_size",
        [.description "Font size of the entries", .type [.number], .format "double",
          .default (Json.ofFloat ({} : Legend).fontSize)]),
      ("position",
        required "Position of the legend" "LegendPosition" legendPosition
          (.string LegendPosition.best.name))]

def trace : Schema :=
  record "A line (or scatter) trace through x/y values."
    [("color", colorField "Explicit color"),
      ("label", labelField),
      ("position", cellField),
      ("x", optionalNumbers "Independent values"),
      ("y", optionalNumbers "Dependent values")]

def matrix : Schema :=
  record "A 2-D grid shown as an image, or as a Hinton diagram."
    [("color_map", optionalText "Color map name; ignored for Hinton diagrams"),
      ("hinton",
        describedTruth "Draw a Hinton diagram (mpltools) instead of a matrix image" false),
      ("label", optionalText "Label, used as the subplot title"),
      ("position", cellField),
      ("values",
        [.description "Row-major values; every row must have the same length", .type [.array],
          .default (.array []), .items [.type [.array], .items number]])]

/-- A series of one kind: the tag, and the fields of that kind. -/
def taggedSeries (kind : SeriesKind) (name : String) (definition : Schema) : Schema :=
  [.type [.object],
    .properties [("kind", [.type [.string], .const kind.name])],
    .reference name definition,
    .required ["kind"]]

def series : Schema :=
  [.description "One data trace or visual element of a figure.",
    .oneOf [
      taggedSeries .line "LineSeries" trace,
      taggedSeries .scatter "LineSeries" trace,
      taggedSeries .bar "BarSeries" bars,
      taggedSeries .errorBand "ErrorBandSeries" band,
      taggedSeries .matrix "MatrixSeries" matrix]]

def seriesList (description : String) : Schema :=
  [.description description, .type [.array], .default (.array []),
    .items [.reference "Series" series]]

def style : Schema :=
  record "Styling options for the preamble."
    [("dark", describedTruth "Dark background (\"dark*\") instead of white (\"white*\")" true),
      ("grid", describedTruth "Draw a grid (\"*grid\")" true),
      ("styling",
        describedTruth "Emit the seaborn import, style and palette lines at all" true)]

def grid : Schema :=
  record "Grid of subplots."
    [("columns", size none), ("rows", size none), ("share_x", truth false),
      ("share_y", truth false)] ++
  [.required ["rows", "columns"]]

def twin : Schema :=
  record "Series drawn against a secondary y-axis sharing the primary x-range."
    [("series", seriesList "Series drawn on the secondary axis"),
      ("y_axis", required "Secondary y-axis label and limits" "AxisConfig" axis
        (Axis.toJson {}))]

def figure : Schema :=
  record "Declarative description of one figure and its output file."
    [("block", describedTruth "Block until the window is closed" true),
      ("legend", required "Legend settings" "Legend" legend (Legend.toJson {})),
      ("output_name", optionalText "Saved figure name; `.pdf` is appended when missing"),
      ("series", seriesList "Series, drawn in order"),
      ("show", describedTruth "Open an interactive window after saving" true),
      ("size", optionalPair "Figure size in inches (width, height)"),
      ("style", required "Seaborn styling" "StyleConfig" style (Style.toJson {})),
      ("subplots", optional "Subplot grid" "SubplotSpec" grid),
      ("tick_label_size", optionalNumber "Tick label font size"),
      ("tight", describedTruth "Save with a tight bounding box when a legend is present" false),
      ("title", optionalText "Figure title (a super-title when subplots are used)"),
      ("twin", optional "Secondary y-axis; cannot be combined with subplots" "TwinAxis" twin),
      ("x_axis", required "X-axis label and limits" "AxisConfig" axis (Axis.toJson {})),
      ("y_axis", required "Y-axis label and limits" "AxisConfig" axis (Axis.toJson {}))]

/-- The definitions that schemas refer to, in the order of their names. -/
def definitions : List (String × Schema) :=
  [("AxisConfig", axis), ("BarSeries", bars), ("Categories", categories), ("Color", color),
    ("ErrorBandSeries", band), ("Legend", legend), ("LegendPosition", legendPosition),
    ("LineSeries", trace), ("MatrixSeries", matrix), ("Position", cell), ("Series", series),
    ("StyleConfig", style), ("SubplotSpec", grid), ("TwinAxis", twin)]

/-- The schema document: the figure, and the definitions behind it. -/
def document : Json :=
  .object (("$schema", .string "https://json-schema.org/draft/2020-12/schema") ::
    ("title", .string "Figure") :: Keyword.toMembers figure ++
    [("$defs", .object (Keyword.membersJson definitions))])

def text : String := document.pretty 0

end FigureScript.FigureSchema
