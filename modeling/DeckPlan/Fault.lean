import DeckPlan.Json.Reader
import DeckPlan.Json.Writer

/-!
# Faults

Everything that can go wrong, by cause. `Fault.message` words a fault for the user and
`Fault.kind` says which class of faults it belongs to; a step that recovers from faults of some
classes only decides by the class.
-/

namespace DeckPlan

/-- The classes of faults. -/
inductive Fault.Kind where
  /-- A value is not acceptable. -/
  | value
  /-- A step did not succeed. -/
  | runtime
  /-- A file is not there. -/
  | fileNotFound
  /-- A server cannot be reached. -/
  | connection
  /-- A server did not answer in time. -/
  | timeout
  /-- A server refused a request. -/
  | webStatus
  /-- A text is not JSON. -/
  | syntaxError
  /-- A text has no encoding. -/
  | encoding
  /-- An object has no such field. -/
  | missingField
  /-- A value has no such operation. -/
  | missingOperation
  /-- A value is of another sort than an operation needs. -/
  | wrongShape
  /-- A number is too great for its use. -/
  | overflow
  /-- A value is nested too deeply. -/
  | nesting
  /-- A path leads to a folder instead of a file. -/
  | isFolder
  /-- A path cannot be followed. -/
  | badPath
  deriving DecidableEq, Repr

/-- What went wrong. -/
inductive Fault where
  /-- A call to the outside failed, for the reason that it gives. -/
  | reported (kind : Fault.Kind) (text : String)
  /-- A web server answered with the status of an error. -/
  | webStatus (status : Int) (reason url : String)
  /-- A text that should be JSON cannot be read. -/
  | unreadable (text : String) (problem : Json.ReadProblem)
  /-- Nothing is left of the subject. -/
  | emptySubject
  /-- An input holds no words. -/
  | numericInput
  /-- An input makes no sense. -/
  | gibberishInput
  /-- The model's verdict on the inputs is not one of the two answers. -/
  | unexpectedVerdict (verdict : String)
  /-- There is no key for the Gemini models. -/
  | noGeminiKey
  /-- There is no key for the OpenAI models. -/
  | noOpenaiKey
  /-- The model's answer is JSON but not a list of objects. -/
  | notTopics
  /-- The model's answer could not be used, not even after a stricter request. -/
  | unusableTopics (cause : Fault) (raw : String)
  /-- The time that passed is infinite. -/
  | infiniteLatency
  /-- The time that passed is not a number. -/
  | latencyNotANumber
  /-- The image search is not configured. -/
  | noSearchKey
  /-- There is nothing to search an image for. -/
  | emptyQuery
  /-- The image search found nothing. -/
  | noResults
  /-- There is no spreadsheet to draw a chart in. -/
  | noSpreadsheet
  /-- There is nothing to draw in a chart. -/
  | noPoints
  /-- The sheets service did not name the sheet that it added. -/
  | noSheetReply (title : String)
  /-- The sheets service did not name the chart that it added. -/
  | noChartReply
  /-- There is no client of the slides service. -/
  | noSlidesClient
  /-- There is no client of the sheets service. -/
  | noSheetsClient
  /-- The slides of the presentation could not be removed. -/
  | deletingSlides (cause : Fault)
  /-- The chart of a topic could not be drawn. -/
  | drawingChart (topic : Json) (cause : Fault)
  /-- The new slides could not be written. -/
  | writingSlides (cause : Fault)
  /-- The key of the service account is not there. -/
  | noServiceAccountKey (path : String)
  /-- There is nothing to log in with. -/
  | noClientSecrets (path folder : String)
  /-- An object lacks a field. -/
  | missingField (key : String)
  /-- A value of this sort has no such operation. -/
  | missingOperation (shape : Json.Shape) (operation : String)
  /-- A value of this sort has no items. -/
  | noItems (shape : Json.Shape)
  /-- A value of this sort has no fields. -/
  | noFields (shape : Json.Shape)
  /-- A value of this sort cannot be joined to a text. -/
  | notJoinable (index : Nat) (shape : Json.Shape)
  /-- A value of this sort cannot be matched with a pattern. -/
  | notMatchable (shape : Json.Shape)
  /-- A value of this sort cannot be compared with a number. -/
  | notComparable (shape : Json.Shape) (comparison : String)
  /-- A part of a path is too long for the name of a file, or the whole path is too long. -/
  | nameTooLong (path : String)
  /-- There is a folder where a file should be written. -/
  | isFolder (path : String)
  /-- A text cannot be written, as it holds halves of pairs. -/
  | unencodable (part : Text.UnencodablePart)

/-- What a sort of values is called in messages. -/
def Json.Shape.name : Json.Shape → String
  | .null => "NoneType"
  | .bool => "bool"
  | .int => "int"
  | .float => "float"
  | .str => "str"
  | .arr => "list"
  | .obj => "dict"

namespace Fault

/-- The message for a value without fields of which a field was asked for. -/
def noFieldsMessage : Json.Shape → String
  | .str => "string indices must be integers, not 'str'"
  | .arr => "list indices must be integers or slices, not str"
  | shape => "'" ++ shape.name ++ "' object is not subscriptable"

/-- The message for the status of an error. -/
def webStatusMessage (status : Int) (reason url : String) : String :=
  let party := if status < 500 then "Client" else "Server"
  toString status ++ " " ++ party ++ " Error: " ++ reason ++ " for url: " ++ url

/-- The message for a text with halves of pairs. -/
def unencodableMessage (part : Text.UnencodablePart) : String :=
  let half := String.ofList ('\\' :: 'u' :: Text.hexDigits 4 part.first)
  let place :=
    if part.count = 1 then "character '" ++ half ++ "' in position " ++ toString part.start
    else "characters in position " ++ toString part.start ++ "-" ++
      toString (part.start + part.count - 1)
  "'utf-8' codec can't encode " ++ place ++ ": surrogates not allowed"

/-- What is told to the user. -/
def message : Fault → String
  | reported _ text => text
  | webStatus status reason url => webStatusMessage status reason url
  | unreadable text problem => problem.message text
  | emptySubject => "subject is empty after sanitization"
  | numericInput => "inputs cannot be numeric-only (subject/audience/tone)"
  | gibberishInput => "inputs look like gibberish; please provide meaningful text"
  | unexpectedVerdict verdict => "unexpected classifier output: " ++ Text.quoted verdict
  | noGeminiKey => "Set GOOGLE_API_KEY or GEMINI_API_KEY"
  | noOpenaiKey => "Set OPENAI_API_KEY"
  | notTopics => "expected a JSON array of topic objects"
  | unusableTopics cause raw =>
    "invalid JSON from model: " ++ cause.message ++ "\nraw: " ++ raw
  | infiniteLatency => "cannot convert float infinity to integer"
  | latencyNotANumber => "cannot convert float NaN to integer"
  | noSearchKey => "missing CSE key or cx"
  | emptyQuery => "empty query"
  | noResults => "no results"
  | noSpreadsheet => "spreadsheet_id is required"
  | noPoints => "no points to chart"
  | noSheetReply title => "missing add sheet reply for " ++ Text.quoted title
  | noChartReply => "missing add chart reply"
  | noSlidesClient => "slides service is None"
  | noSheetsClient => "sheets service is None"
  | deletingSlides cause => "delete existing slides: " ++ cause.message
  | drawingChart topic cause =>
    "create sheets chart for topic " ++ topic.inspect ++ ": " ++ cause.message
  | writingSlides cause => "batch update: " ++ cause.message
  | noServiceAccountKey path => "Service account key not found: " ++ path
  | noClientSecrets path folder =>
    "Missing '" ++ path ++ "'. Download from Google Cloud Console and place in " ++ folder ++
      "/, or set GOOGLE_APPLICATION_CREDENTIALS"
  | missingField key => Text.quoted key
  | missingOperation shape operation =>
    "'" ++ shape.name ++ "' object has no attribute '" ++ operation ++ "'"
  | noItems shape => "'" ++ shape.name ++ "' object is not iterable"
  | noFields shape => noFieldsMessage shape
  | notJoinable index shape =>
    "sequence item " ++ toString index ++ ": expected str instance, " ++ shape.name ++ " found"
  | notMatchable shape => "expected string or bytes-like object, got '" ++ shape.name ++ "'"
  | notComparable shape comparison =>
    "'" ++ comparison ++ "' not supported between instances of '" ++ shape.name ++ "' and 'int'"
  | nameTooLong path => "[Errno 36] File name too long: " ++ Text.quoted path
  | isFolder path => "[Errno 21] Is a directory: " ++ Text.quoted path
  | unencodable part => unencodableMessage part

/-- The class of a text that cannot be read. -/
def readKind : Json.ReadProblem → Kind
  | .malformed .. => .syntaxError
  | .tooManyDigits _ => .value
  | .tooDeep _ => .nesting

/-- The class of a fault. -/
def kind : Fault → Kind
  | reported kind _ => kind
  | webStatus .. => .webStatus
  | unreadable _ problem => readKind problem
  | deletingSlides _ | drawingChart .. | writingSlides _ => .runtime
  | noServiceAccountKey _ | noClientSecrets .. => .fileNotFound
  | infiniteLatency => .overflow
  | missingField _ => .missingField
  | missingOperation .. => .missingOperation
  | noItems _ | noFields _ | notJoinable .. | notMatchable _ | notComparable .. => .wrongShape
  | nameTooLong _ => .badPath
  | isFolder _ => .isFolder
  | unencodable _ => .encoding
  | _ => .value

/-- Whether a fault says that a value is not acceptable, be it only for its syntax or for want of
an encoding. -/
def isValueFault (fault : Fault) : Bool :=
  fault.kind = .value || fault.kind = .syntaxError || fault.kind = .encoding

/-- Whether a fault comes from the web connection. -/
def isWebFault (fault : Fault) : Bool :=
  fault.kind = .connection || fault.kind = .timeout || fault.kind = .webStatus

end Fault

end DeckPlan
