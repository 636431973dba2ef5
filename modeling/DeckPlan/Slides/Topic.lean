import DeckPlan.Sheets.Chart
import DeckPlan.Slides.Request

/-!
# The slides of a topic

A topic gets a slide with its title and its image, a slide with its summary, and a slide with a
chart if it has data. `topicRequests` lists the requests for them, after the chart was drawn.
The names of the new objects hold the number of the topic and a suffix of their own.
-/

namespace DeckPlan.Slides

/-- Where the title stands. -/
def titleBox : Box := { width := 600, height := 60, x := 50, y := 50 }

/-- Where the summary stands. -/
def bodyBox : Box := { width := 600, height := 300, x := 50, y := 130 }

/-- Where the image stands. -/
def imageBox : Box := { width := 400, height := 300, x := 50, y := 130 }

/-- What the slides of a topic show. -/
structure TopicContent where
  /-- The title as it was given, for messages. -/
  label : Json
  title : String
  image : Option Json
  summary : String
  dataset : Option Json

/-- Whether a dataset has points. -/
def hasPoints (dataset : Json) : Except Fault Bool := do
  return (← dataset.field "points" .null).isGiven

/-- What the slides of a topic show. A missing title or summary is empty. -/
def TopicContent.of (topic : Json) : Except Fault TopicContent := do
  let label ← topic.field "topic" .null
  -- A title that is there without a value is no text, and fails.
  let title ← (← topic.field "topic" (.str "")).text "split"
  let image ← topic.field "image_url" .null
  let summary ← (← topic.field "summary" (.str "")).text "split"
  let dataset ← topic.field "dataset" .null
  let charted ← if dataset.isGiven then hasPoints dataset else pure false
  return {
    label
    title
    image := if image.isGiven then some image else none
    summary
    dataset := if charted then some dataset else none }

/-- The name of a new object of the topic with the given number. -/
def objectName (kind : String) (index : Int) (suffix : String) : String :=
  "auto_" ++ kind ++ "_" ++ toString index ++ "_" ++ suffix

/-- A text box with a marked-up text. -/
def textBox (object page : String) (box : Box) (markup : String) : List Request :=
  .createTextBox object page box :: (Markup.editsOf markup object).map .editText

/-- The slide with title and image. -/
def titleSlide (name : String → String) (content : TopicContent) : List Request :=
  let page := name "slide"
  .createSlide page :: textBox (name "title") page titleBox content.title ++
    content.image.toList.map fun url => .createImage (name "image") page url imageBox

/-- The slide with the summary. -/
def summarySlide (name : String → String) (content : TopicContent) : List Request :=
  let page := name "summary"
  .createSlide page :: textBox (name "summary_body") page bodyBox content.summary

/-- The width or the height of a chart. One that makes no sense is replaced by the usual one. -/
def chartSize (size : Json) : Except Fault Number :=
  (size.comparable "<=").map fun size =>
    if size.isNonpositive then .float (.ofNat 4000000) else size

/-- Where a chart starts. A place that makes no sense is replaced by the usual one. -/
def chartPlace (place : Json) : Except Fault Number :=
  (place.comparable "<").map fun place =>
    if place.isNegative then .float (.ofNat 100000) else place

/-- A chart on a slide. An object without a name gets one. -/
def embedding (object spreadsheet page : String) (chart x y width height : Json) :
    Except Fault ChartEmbed := do
  let width ← chartSize width
  let height ← chartSize height
  let x ← chartPlace x
  let y ← chartPlace y
  let object := if object.isEmpty then "MyEmbeddedChart" else object
  return { object, spreadsheet, chart, page, x, y, width, height }

/-- The slide with a chart that was drawn. -/
def chartSlide (name : String → String) (spreadsheet : String) (chart : Json) :
    Except Fault (List Request) := do
  let page := name "chart_slide"
  let embed ← embedding (name "chart") spreadsheet page chart (.float (.ofNat 100000))
    (.float (.ofNat 160000)) (.float (.ofNat 4000000)) (.float (.ofNat 3000000))
  return [.createSlide page, .embedChart embed]

/-- Draws the chart of a topic. -/
def drawTopicChart (spreadsheet : String) (index : Int) (label dataset : Json) : Program Json :=
  (Sheets.drawChart spreadsheet (Sheets.tableTitle (index + 1)) dataset).recover fun fault =>
    .fail (.drawingChart label fault)

/-- The requests for the slides of the topic with the given number. Its chart is drawn on the
way. -/
def topicRequests (spreadsheet : String) (index : Int) (topic : Json) : Program (List Request) := do
  let suffix ← Program.drawSuffix
  let content ← Program.ofExcept (TopicContent.of topic)
  let name := fun kind => objectName kind index suffix
  let slides := titleSlide name content ++ summarySlide name content
  match content.dataset with
  | none => return slides
  | some dataset =>
    let chart ← drawTopicChart spreadsheet index content.label dataset
    return slides ++ (← Program.ofExcept (chartSlide name spreadsheet chart))

end DeckPlan.Slides
