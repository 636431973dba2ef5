import DeckPlan.Json.Basic

/-!
# Requests to a spreadsheet

The requests that change the sheets of a spreadsheet, and their JSON form (`Request.toJson`).
A chart shows the rows of a table: labels in the first column and values in the second, below a
header row.
-/

namespace DeckPlan.Sheets

/-- How a chart shows its values. -/
inductive ChartType where
  | line
  | column
  deriving DecidableEq, Repr

/-- The name of a chart type. -/
def ChartType.name : ChartType → String
  | line => "LINE"
  | column => "COLUMN"

/-- The chart type for a type of data: a line for a time series and columns for all else. -/
def ChartType.of : Json → ChartType
  | .str "timeseries" => line
  | _ => column

/-- A chart of the table in a sheet. -/
structure Chart where
  title : Json
  type : ChartType
  /-- The sheet that holds the table, as the sheets service names it. -/
  sheet : Json
  /-- The number of rows of the table, its header included. -/
  rows : Nat

/-- One change of a spreadsheet. -/
inductive Request where
  /-- Adds an empty sheet. -/
  | addSheet (title : String)
  /-- Removes a sheet. -/
  | deleteSheet (sheet : Json)
  /-- Adds a chart on a sheet of its own. -/
  | addChart (chart : Chart)

/-- The cells of one column that hold data, which is all rows but the header. -/
def Chart.columnJson (chart : Chart) (column : Nat) : Json :=
  .obj [("sourceRange", .obj [("sources", .arr [.obj [("sheetId", chart.sheet),
    ("startRowIndex", .int 1), ("endRowIndex", .int chart.rows),
    ("startColumnIndex", .int column), ("endColumnIndex", .int (column + 1))]])])]

/-- The JSON form of a chart. -/
def Chart.json (chart : Chart) : Json :=
  .obj [("spec", .obj [("title", chart.title),
      ("basicChart", .obj [("chartType", .str chart.type.name),
        ("legendPosition", .str "BOTTOM_LEGEND"),
        ("domains", .arr [.obj [("domain", chart.columnJson 0)]]),
        ("series", .arr [.obj [("series", chart.columnJson 1),
          ("targetAxis", .str "LEFT_AXIS")]])])]),
    ("position", .obj [("newSheet", .bool true)])]

/-- The JSON form of a request. -/
def Request.toJson : Request → Json
  | addSheet title =>
    .obj [("addSheet", .obj [("properties", .obj [("title", .str title)])])]
  | deleteSheet sheet => .obj [("deleteSheet", .obj [("sheetId", sheet)])]
  | addChart chart => .obj [("addChart", .obj [("chart", chart.json)])]

/-- Cells of one sheet. -/
structure CellRange where
  /-- The title of the sheet. -/
  sheet : String
  /-- The cells, as `A1:B`. -/
  cells : String
  deriving DecidableEq, Repr

/-- A range of cells with its sheet. -/
def CellRange.text (range : CellRange) : String :=
  range.sheet ++ "!" ++ range.cells

end DeckPlan.Sheets
