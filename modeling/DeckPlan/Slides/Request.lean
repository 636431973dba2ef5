import DeckPlan.Markup.Edit

/-!
# Requests to a presentation

The requests that change a presentation, as the slides service takes them, and their JSON form
(`Request.toJson`). Boxes are measured in points and embedded charts in English Metric Units.
-/

namespace DeckPlan.Slides

/-- The size and the place of an element on its slide, in points. -/
structure Box where
  width : Nat
  height : Nat
  x : Nat
  y : Nat
  deriving DecidableEq, Repr

/-- A chart of a spreadsheet on a slide. Lengths are in English Metric Units. -/
structure ChartEmbed where
  /-- The new object. -/
  object : String
  /-- The spreadsheet that holds the chart. -/
  spreadsheet : String
  /-- The chart, as the sheets service names it. -/
  chart : Json
  /-- The slide that receives the chart. -/
  page : String
  x : Number
  y : Number
  width : Number
  height : Number

/-- One change of a presentation. -/
inductive Request where
  /-- Adds a blank slide. -/
  | createSlide (object : String)
  /-- Adds an empty text box to a slide. -/
  | createTextBox (object page : String) (box : Box)
  /-- Adds an image to a slide. -/
  | createImage (object page : String) (url : Json) (box : Box)
  /-- Edits the text of a text box. -/
  | editText (edit : Markup.Edit)
  /-- Adds a linked chart to a slide. -/
  | embedChart (embed : ChartEmbed)
  /-- Removes a slide or an element. -/
  | deleteObject (object : Json)

/-- A length with its unit. -/
def lengthJson (magnitude : Json) (unit : String) : Json :=
  .obj [("magnitude", magnitude), ("unit", .str unit)]

/-- The page, the size and the place of an element, all in one unit. -/
def elementJson (page unit : String) (width height scale x y : Json) : Json :=
  .obj [("pageObjectId", .str page),
    ("size", .obj [("width", lengthJson width unit), ("height", lengthJson height unit)]),
    ("transform", .obj [("scaleX", scale), ("scaleY", scale), ("translateX", x),
      ("translateY", y), ("unit", .str unit)])]

/-- The page and the box of an element. -/
def Box.json (page : String) (box : Box) : Json :=
  elementJson page "PT" (.int box.width) (.int box.height) (.int 1) (.int box.x) (.int box.y)

/-- The JSON form of an embedded chart. -/
def ChartEmbed.json (embed : ChartEmbed) : Json :=
  .obj [("objectId", .str embed.object), ("spreadsheetId", .str embed.spreadsheet),
    ("chartId", embed.chart), ("linkingMode", .str "LINKED"),
    ("elementProperties",
      elementJson embed.page "EMU" (.ofNumber embed.width) (.ofNumber embed.height)
        (.float (.ofNat 1)) (.ofNumber embed.x) (.ofNumber embed.y))]

/-- The JSON form of a request. -/
def Request.toJson : Request → Json
  | createSlide object =>
    .obj [("createSlide", .obj [("objectId", .str object),
      ("slideLayoutReference", .obj [("predefinedLayout", .str "BLANK")])])]
  | createTextBox object page box =>
    .obj [("createShape", .obj [("objectId", .str object), ("shapeType", .str "TEXT_BOX"),
      ("elementProperties", box.json page)])]
  | createImage object page url box =>
    .obj [("createImage", .obj [("objectId", .str object), ("url", url),
      ("elementProperties", box.json page)])]
  | editText edit => edit.request
  | embedChart embed => .obj [("createSheetsChart", embed.json)]
  | deleteObject object => .obj [("deleteObject", .obj [("objectId", object)])]

end DeckPlan.Slides
