import DeckPlan.Json.Access
import DeckPlan.Outside.Program
import DeckPlan.Text.Blank
import DeckPlan.Text.Case
import DeckPlan.Text.Digit

/-!
# The sheets of a spreadsheet

Charts live in sheets that earlier runs left behind: tables titled `Data_` and a number, and chart
sheets. `cleanUp` removes both kinds. A spreadsheet keeps at least one sheet, so an empty one is
added first if all would go. `ensureSheet` finds the sheet with a title or adds it.
-/

namespace DeckPlan.Sheets

/-- Which properties of sheets are asked for. -/
def listedFields : String := "sheets(properties(sheetId,title,sheetType))"

/-- The title of the sheet that is added when all others are removed. -/
def fallbackTitle : String := "Sheet1"

/-- The title of the table of the topic with the given number. -/
def tableTitle (number : Int) : String :=
  "Data_" ++ toString number

/-- Whether a title is that of a generated table: `Data_` and digits, and perhaps a line break. -/
def isTableTitle (title : String) : Bool :=
  match "Data_".toList.isPrefixOf? title.toList with
  | some rest =>
    let number := Text.withoutFinalBreak rest
    !number.isEmpty && number.all Text.isDigit
  | none => false

/-- The properties of the sheets in a listing; empty entries are skipped. -/
def readListing (reply : Json) : Except Fault (List Json) := do
  let entries ← (← reply.field "sheets" (.arr [])).items
  (entries.filter Json.isGiven).mapM fun entry => entry.field "properties" (.obj [])

/-- The properties of the sheets of a spreadsheet. -/
def list (spreadsheet : String) : Program (List Json) := do
  let reply : Json ← Program.call (.sheetsGet spreadsheet listedFields)
  Program.ofExcept (readListing reply)

/-- Whether a sheet was generated: it is a chart sheet or a table of a topic. -/
def isGenerated (sheet : Json) : Except Fault Bool := do
  let type ← (← sheet.field "sheetType" (.str "")).text "upper"
  if Text.uppered type = "CHART" then return true
  else
    match ← sheet.field "title" (.str "") with
    | .str title => return isTableTitle title
    | other => throw (.notMatchable other.shape)

/-- The generated ones among sheets. -/
def generated : List Json → Except Fault (List Json)
  | [] => .ok []
  | sheet :: rest => do
    -- The sheets behind a generated one are looked at too, and each of them can fail.
    let found ← isGenerated sheet
    let later ← generated rest
    return if found then sheet :: later else later

/-- The requests that remove the sheets `doomed` out of `count` sheets. -/
def removalRequests (count : Nat) (doomed : List Json) : Except Fault (List Request) := do
  let removals ← doomed.mapM fun sheet => (sheet.require "sheetId").map Request.deleteSheet
  -- A spreadsheet must keep a sheet, so one is added before the last one goes.
  return if doomed.length = count then .addSheet fallbackTitle :: removals else removals

/-- Removes the generated sheets. -/
def cleanUp (spreadsheet : String) : Program Unit := do
  let sheets ← list spreadsheet
  let doomed ← Program.ofExcept (generated sheets)
  if doomed.isEmpty then return ()
  else
    let requests ← Program.ofExcept (removalRequests sheets.length doomed)
    let outcome ← (Program.call (.sheetsUpdate spreadsheet requests)).attempt
    match outcome with
    | .ok _ =>
      Program.log
        ("🧹 Removed " ++ toString doomed.length ++ " generated sheet(s) from spreadsheet")
    | .error fault =>
      Program.log ("❌ Could not clean up spreadsheet: " ++ fault.message)
      .fail fault

/-- The identifier of the first sheet with a title. -/
def find? (title : String) : List Json → Except Fault (Option Json)
  | [] => .ok none
  | sheet :: rest => do
    match ← sheet.field "title" .null with
    | .str found =>
      if found = title then return some (← sheet.require "sheetId")
      else find? title rest
    | _ => find? title rest

/-- The part of the first reply to an update that a path leads to. -/
def replyPart? (reply : Json) (path : List String) : Option Json := do
  let first ← (← reply.field? "replies").first?
  path.foldlM Json.field? first

/-- The identifier of the sheet with a title, which is added if it is not there. -/
def ensureSheet (spreadsheet title : String) : Program Json := do
  let sheets ← list spreadsheet
  match ← Program.ofExcept (find? title sheets) with
  | some sheet => return sheet
  | none =>
    let reply : Json ← Program.call (.sheetsUpdate spreadsheet [.addSheet title])
    match replyPart? reply ["addSheet", "properties", "sheetId"] with
    | some sheet => return sheet
    | none => .fail (.noSheetReply title)

end DeckPlan.Sheets
