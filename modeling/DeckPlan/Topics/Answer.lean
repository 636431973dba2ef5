import DeckPlan.Fault
import DeckPlan.Text.Blank
import DeckPlan.Text.Occurrence

/-!
# The model's answer

Models like to wrap what was asked for. `payload` takes a JSON array or object out of an answer
with code fences around it or words before and after it, and `readTopics` reads the payload, which
has to be an array of objects.
-/

namespace DeckPlan.Topics

/-- The line that opens and closes a block of code. -/
def fence : List Char :=
  List.replicate 3 (Char.ofNat 0x60)

/-- The inside of a block of code; a text that does not start with one is left as it is. -/
def unfenced (s : List Char) : List Char :=
  if fence.isPrefixOf s then
    let body := ((Text.cut? ['\n'] s).map Prod.snd).getD s
    Text.trim (((Text.cutLast? fence body).map Prod.fst).getD body)
  else s

/-- Whether a character opens an array or an object. -/
def isOpening (c : Char) : Bool :=
  c = '[' || c = '\x7b'

/-- The text from its first opening bracket on; all of it if there is none. -/
def fromOpening (s : List Char) : List Char :=
  match s.dropWhile fun c => !isOpening c with
  | [] => s
  | t => t

/-- The text up to its last `closing`, without blanks at the ends; all of it if there is none. -/
def upToLast (closing : Char) (s : List Char) : List Char :=
  match Text.throughLast closing s with
  | [] => s
  | t => Text.trim t

/-- The JSON text in an answer. -/
def payload (answer : List Char) : List Char :=
  match fromOpening (unfenced (Text.trim answer)) with
  | '[' :: rest => upToLast ']' ('[' :: rest)
  | '\x7b' :: rest => upToLast '\x7d' ('\x7b' :: rest)
  | s => s

/-- The JSON text in an answer. -/
def extractJson (answer : String) : String :=
  String.ofList (payload answer.toList)

/-- The fields of an object. -/
def fields? : Json → Option Fields
  | .obj fields => some fields
  | _ => none

/-- The topics that an answer proposes. -/
def readTopics (answer : String) : Except Fault (List Fields) :=
  let text := extractJson answer
  match Json.read text with
  | .error problem => .error (.unreadable text problem)
  | .ok (.arr items) =>
    match items.mapM fields? with
    | some topics => .ok topics
    | none => .error .notTopics
  | .ok _ => .error .notTopics

end DeckPlan.Topics
