import DeckPlan.Json.Basic
import DeckPlan.Markup.FormattedText

/-!
# Edits of a text box

The edits that give a text box a formatted text: its text is inserted first, then every bold
range is styled and every bullet range is made a list, each in the order of the ranges.
-/

namespace DeckPlan.Markup

/-- One edit of the text of the object `target`. -/
inductive Edit where
  /-- Puts text at the start of the object. -/
  | insertText (target text : String)
  /-- Makes a range bold. -/
  | applyBold (target : String) (range : Range)
  /-- Makes the paragraphs of a range a list. -/
  | applyBullets (target : String) (range : BulletRange)
  deriving DecidableEq, Repr

/-- The look of the bullets of a level. -/
def bulletPreset (level : Int) : String :=
  if level = 1 then "BULLET_HOLLOW_CIRCLE_SQUARE" else "BULLET_DISC_CIRCLE_SQUARE"

namespace Edit

/-- The object that is edited. -/
def target : Edit → String
  | insertText target _ => target
  | applyBold target _ => target
  | applyBullets target _ => target

/-- A range as a part of a request. -/
def rangeRequest (range : Range) : Json :=
  .obj [("type", .str "FIXED_RANGE"), ("startIndex", .int range.start),
    ("endIndex", .int range.stop)]

/-- The request that makes the edit. -/
def request : Edit → Json
  | insertText target text =>
    .obj [("insertText",
      .obj [("objectId", .str target), ("insertionIndex", .int 0), ("text", .str text)])]
  | applyBold target range =>
    .obj [("updateTextStyle",
      .obj [("objectId", .str target), ("style", .obj [("bold", .bool true)]),
        ("textRange", rangeRequest range), ("fields", .str "bold")])]
  | applyBullets target range =>
    .obj [("createParagraphBullets",
      .obj [("objectId", .str target), ("textRange", rangeRequest range.toRange),
        ("bulletPreset", .str (bulletPreset range.level))])]

end Edit

/-- The edits that give the object `target` the text of the segments. -/
def edits (segments : List Segment) (target : String) : List Edit :=
  let formatted := compile segments
  .insertText target formatted.text :: formatted.bold.map (.applyBold target) ++
    formatted.bullets.map (.applyBullets target)

/-- The edits that give the object `target` a marked-up text. -/
def editsOf (raw : String) (target : String) : List Edit :=
  edits (parse raw) target

end DeckPlan.Markup
