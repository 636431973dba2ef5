import DeckPlan.Sheets.Listing
import DeckPlan.Text.Blank

/-!
# Charts from data

`drawChart` writes data into a sheet and adds a chart of it: the table has a header and one row
for each point, and the chart covers all rows but the header.
-/

namespace DeckPlan.Sheets

/-- The rows of a table with two columns, its header first. -/
def tableRows (labels : List Json) (header : String) (values : List Json) : List (List Json) :=
  [.str "Label", .str header] :: List.zipWith (fun label value => [label, value]) labels values

/-- The header of the values, with their unit if it is given. -/
def valueHeader (dataset : Json) : String :=
  match (dataset.field? "unit").filter Json.isGiven with
  | some unit => "Value (" ++ unit.display ++ ")"
  | none => "Value"

/-- The table of the points of a dataset. -/
def datasetRows (dataset points : Json) : Except Fault (List (List Json)) := do
  let points ← points.items
  let labels ← points.mapM fun point => point.require "label"
  let values ← points.mapM fun point => point.require "value"
  return tableRows labels (valueHeader dataset) values

/-- The chart of the table with the given number of rows in a sheet. -/
def datasetChart (dataset sheet : Json) (rows : Nat) : Chart :=
  { title := ((dataset.field? "title").filter Json.isGiven).getD (.str "Chart")
    type := .of ((dataset.field? "type").getD .null)
    sheet
    rows }

/-- Draws the chart of a dataset from a table in the sheet with the given title, and yields the
chart's identifier. A blank title stands for `Data`. -/
def drawChart (spreadsheet title : String) (dataset : Json) : Program Json := do
  if Text.isBlankText spreadsheet then .fail .noSpreadsheet
  else
    let title := if Text.isBlankText title then "Data" else title
    let points ← Program.ofExcept (dataset.field "points" .null)
    if !points.isGiven then .fail .noPoints
    else
      let sheet ← ensureSheet spreadsheet title
      let _ ← Program.call (.valuesClear spreadsheet { sheet := title, cells := "A:Z" })
      let rows ← Program.ofExcept (datasetRows dataset points)
      let _ ← Program.call (.valuesUpdate spreadsheet { sheet := title, cells := "A1:B" } rows)
      -- The rows are counted from the points, and not from what was written.
      let items ← Program.ofExcept points.items
      let chart := datasetChart dataset sheet (items.length + 1)
      let reply : Json ← Program.call (.sheetsUpdate spreadsheet [.addChart chart])
      match replyPart? reply ["addChart", "chart", "chartId"] with
      | none => .fail .noChartReply
      | some id =>
        Program.log ("📊 Chart " ++ id.display ++ " created from '" ++ title ++ "' (" ++
          toString items.length ++ " points)")
        return id

end DeckPlan.Sheets
