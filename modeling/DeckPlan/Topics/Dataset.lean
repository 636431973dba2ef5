import DeckPlan.Json.Writer
import DeckPlan.Text.Blank
import DeckPlan.Text.Case

/-!
# Data of topics

A topic may come with data for a chart. What the model sends is cleaned: `Dataset.ofFields?` keeps
the usable points of the first `maxPoints`, and a dataset without any is none at all. A point is
usable if it has a label that is not blank and a finite number as its value.

* `sanitize` cleans the data of a topic and keeps all other fields.
* `normalize` makes a topic with exactly the known fields of what the model sent.
-/

namespace DeckPlan.Topics

/-- The greatest number of points that are looked at. -/
def maxPoints : Nat := 20

/-- What kind of data a dataset holds. -/
inductive Category where
  | timeseries
  | category
  | comparison
  deriving DecidableEq, Repr

/-- The name of a kind of data. -/
def Category.name : Category → String
  | timeseries => "timeseries"
  | category => "category"
  | comparison => "comparison"

/-- The kind of data with a name; unknown names stand for categories. -/
def Category.ofName (name : String) : Category :=
  if name = "timeseries" then timeseries
  else if name = "comparison" then comparison
  else category

/-- A value with its label. -/
structure Point where
  label : String
  value : Number
  deriving DecidableEq, Repr

/-- Data for a chart. -/
structure Dataset where
  title : Option String
  unit : Option String
  category : Category
  points : List Point
  deriving DecidableEq, Repr

/-- The text of a field; a field that is not given has an empty one. -/
def fieldText (fields : Fields) (key : String) : String :=
  ((Json.given? fields key).map Json.display).getD ""

/-- The finite number in a field. -/
def fieldNumber? (fields : Fields) (key : String) : Option Number :=
  ((Fields.get? fields key).bind Json.number?).filter Number.isFinite

/-- The usable point that a value describes. -/
def Point.ofJson? : Json → Option Point
  | .obj fields =>
    let label := Text.trimmed (fieldText fields "label")
    if label.isEmpty then none
    else (fieldNumber? fields "value").map fun value => { label, value }
  | _ => none

/-- A point as JSON. -/
def Point.toJson (point : Point) : Json :=
  .obj [("label", .str point.label), ("value", .ofNumber point.value)]

namespace Dataset

/-- The points that a field holds, usable or not. -/
def rawPoints (fields : Fields) : List Json :=
  match Fields.get? fields "points" with
  | some (.arr items) => items
  | _ => []

/-- The usable points among the first ones. -/
def usablePoints (fields : Fields) : List Point :=
  ((rawPoints fields).take maxPoints).filterMap Point.ofJson?

/-- The data that fields describe, if they hold a usable point. -/
def ofFields? (fields : Fields) : Option Dataset :=
  let points := usablePoints fields
  if points.isEmpty then none
  else some
    { title := (Json.given? fields "title").map Json.display
      unit := (Json.given? fields "unit").map Json.display
      category := .ofName (Text.lowered (Text.trimmed (fieldText fields "type")))
      points }

/-- A field with a text, if there is one. -/
def textField (key : String) (text : Option String) : Fields :=
  text.toList.map fun text => (key, .str text)

/-- The data as JSON. -/
def toJson (dataset : Dataset) : Json :=
  .obj (textField "title" dataset.title ++ textField "unit" dataset.unit ++
    [("type", .str dataset.category.name), ("points", .arr (dataset.points.map Point.toJson))])

end Dataset

/-- Whether a topic is marked as one that can be counted. -/
def isQuantifiable (topic : Fields) : Bool :=
  match Fields.get? topic "quantifiable" with
  | some (.bool true) => true
  | _ => false

/-- Cleans the data of a topic. A topic with data is marked as one that can be counted. If no point
of its data is usable, data and mark are removed; if it never had data, the mark stays. -/
def sanitize (topic : Fields) : Fields :=
  match Fields.get? topic "dataset" with
  | some (.obj fields) =>
    match Dataset.ofFields? fields with
    | some dataset =>
      Fields.put "quantifiable" (.bool true) (Fields.put "dataset" dataset.toJson topic)
    | none => Fields.erase "quantifiable" (Fields.erase "dataset" topic)
  | _ =>
    -- What is there in place of data goes; the mark goes too unless it is exactly `true`.
    let topic := Fields.erase "dataset" topic
    if isQuantifiable topic then topic else Fields.erase "quantifiable" topic

/-- The known fields of a topic: title and summary as texts, the mark and the data if present. -/
def knownFields (topic : Fields) : Fields :=
  [("topic", .str (Text.trimmed (fieldText topic "topic"))),
    ("summary", .str (Text.trimmed (fieldText topic "summary")))] ++
    (if isQuantifiable topic then [("quantifiable", .bool true)] else []) ++
    ((Fields.get? topic "dataset").toList.map fun dataset => ("dataset", dataset))

/-- The topic that the model described, with nothing in it but what is known and clean. -/
def normalize (topic : Fields) : Fields :=
  sanitize (knownFields topic)

end DeckPlan.Topics
