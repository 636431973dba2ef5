import DeckPlan.Json.Basic
import DeckPlan.Number.Decimal
import DeckPlan.Text.Quoted

/-!
# JSON texts

* `Json.compact` writes a value on one line, with `", "` between members and `": "` after keys.
* `Json.indented` writes every member on a line of its own, two spaces deeper than what holds it.
* `Json.display` is the text of a value inside a message; a string stands for itself there, and
  `Json.inspect` shows it between quotes.

In JSON texts only the double quote, the backslash and the characters below U+0020 are escaped.
-/

namespace DeckPlan

namespace Json

/-- How a character is written inside a JSON string. -/
def escape (c : Char) : List Char :=
  if c = Text.doubleQuote || c = '\\' then ['\\', c]
  else if c = '\n' then ['\\', 'n']
  else if c = '\r' then ['\\', 'r']
  else if c = '\t' then ['\\', 't']
  else if c = Char.ofNat 0x08 then ['\\', 'b']
  else if c = Char.ofNat 0x0C then ['\\', 'f']
  else if c.toNat < 0x20 then '\\' :: 'u' :: Text.hexDigits 4 c.toNat
  else [c]

/-- A string as JSON text. -/
def stringText (s : String) : String :=
  String.ofList (Text.doubleQuote :: s.toList.flatMap escape ++ [Text.doubleQuote])

/-- A floating-point number as JSON text; infinities and `nan` have words of their own. -/
def floatText : Binary64 → String
  | .nan => "NaN"
  | .infinity negative => if negative then "-Infinity" else "Infinity"
  | x => x.decimalText

/-- A value without members as JSON text. -/
def leafText : Json → String
  | .null => "null"
  | .bool value => if value then "true" else "false"
  | .int value => toString value
  | .float value => floatText value
  | .str value => stringText value
  | .arr _ => "[]"
  | .obj _ => "\x7b\x7d"

mutual

/-- The value as JSON text on one line. -/
def compact : Json → String
  | .arr items => "[" ++ ", ".intercalate (compactItems items) ++ "]"
  | .obj fields => "\x7b" ++ ", ".intercalate (compactFields fields) ++ "\x7d"
  | leaf => leafText leaf

/-- The texts of the items. -/
def compactItems : List Json → List String
  | [] => []
  | item :: rest => compact item :: compactItems rest

/-- The texts of the fields. -/
def compactFields : List (String × Json) → List String
  | [] => []
  | (key, value) :: rest => (stringText key ++ ": " ++ compact value) :: compactFields rest

end

/-- Members between brackets, each on a line of its own. -/
def onLines (depth : Nat) (opening closing : String) (members : List String) : String :=
  if members.isEmpty then opening ++ closing
  else
    let margin := fun depth => "\n" ++ String.ofList (List.replicate (2 * depth) ' ')
    opening ++ margin (depth + 1) ++ ("," ++ margin (depth + 1)).intercalate members ++
      margin depth ++ closing

mutual

/-- The value as JSON text over several lines, `depth` steps from the margin. -/
def indentedFrom (depth : Nat) : Json → String
  | .arr items => onLines depth "[" "]" (indentedItems (depth + 1) items)
  | .obj fields => onLines depth "\x7b" "\x7d" (indentedFields (depth + 1) fields)
  | leaf => leafText leaf

/-- The texts of the items. -/
def indentedItems (depth : Nat) : List Json → List String
  | [] => []
  | item :: rest => indentedFrom depth item :: indentedItems depth rest

/-- The texts of the fields. -/
def indentedFields (depth : Nat) : List (String × Json) → List String
  | [] => []
  | (key, value) :: rest =>
    (stringText key ++ ": " ++ indentedFrom depth value) :: indentedFields depth rest

end

/-- The value as JSON text over several lines. -/
def indented (value : Json) : String :=
  indentedFrom 0 value

mutual

/-- The text of a value that is part of another one, in a message. -/
def inspect : Json → String
  | .null => "None"
  | .bool value => if value then "True" else "False"
  | .int value => toString value
  | .float value => value.decimalText
  | .str value => Text.quoted value
  | .arr items => "[" ++ ", ".intercalate (inspectItems items) ++ "]"
  | .obj fields => "\x7b" ++ ", ".intercalate (inspectFields fields) ++ "\x7d"

/-- The texts of the items. -/
def inspectItems : List Json → List String
  | [] => []
  | item :: rest => inspect item :: inspectItems rest

/-- The texts of the fields. -/
def inspectFields : List (String × Json) → List String
  | [] => []
  | (key, value) :: rest => (Text.quoted key ++ ": " ++ inspect value) :: inspectFields rest

end

/-- The text of a value in a message. -/
def display : Json → String
  | .str value => value
  | value => inspect value

end Json

end DeckPlan
