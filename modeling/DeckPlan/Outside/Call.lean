import DeckPlan.Outside.Credentials
import DeckPlan.Sheets.Request
import DeckPlan.Slides.Request

/-!
# Calls to the outside

All that the program asks of the outside: text from a model, a pause, pages from the web, and
the operations of the sheets, slides and authorization services.

* `Call` is a call with its arguments, and `Call.Kind` the operation that it calls.
* `Call.Kind.Reply` is the type of what an operation answers when it does not fail.
* `Call.Kind.name` and `Call.arguments` are the form in which calls are recorded.
-/

namespace DeckPlan

/-- How many tokens a model used; a count that is not known is absent. -/
structure UsageReport where
  prompt : Option Int := none
  output : Option Int := none
  total : Option Int := none
  deriving DecidableEq, Repr

/-- What a model answers. -/
structure ModelReply where
  text : Option String := none
  usage : Option UsageReport := none
  deriving DecidableEq, Repr

/-- What a web server answers. -/
structure WebReply where
  status : Int := 200
  reason : String := ""
  body : String := ""
  headers : List (String × String) := []
  deriving DecidableEq, Repr

/-- The operations of the outside. -/
inductive Call.Kind where
  | gemini | openai
  | sleep
  | webGet | webHead
  | sheetsGet | sheetsUpdate | valuesClear | valuesUpdate
  | slidesGet | slidesUpdate
  | loadServiceAccount | actFor | loadLogin | refreshLogin | loadClientSecrets | logIn | buildClient
  deriving DecidableEq, Repr

/-- A call to the outside. -/
inductive Call where
  /-- Asks a Gemini model to go on from a prompt. -/
  | gemini (apiKey model prompt : String)
  /-- Asks an OpenAI model to answer a message. -/
  | openai (model message : String)
  /-- Waits. -/
  | sleep (seconds : Binary64)
  /-- Fetches a page. -/
  | webGet (url : String) (parameters : List (String × String)) (timeout : Nat)
  /-- Fetches the headers of a page, following redirections. -/
  | webHead (url : String) (timeout : Nat)
  /-- Lists the sheets of a spreadsheet. -/
  | sheetsGet (spreadsheet fields : String)
  /-- Changes the sheets of a spreadsheet. -/
  | sheetsUpdate (spreadsheet : String) (requests : List Sheets.Request)
  /-- Empties cells. -/
  | valuesClear (spreadsheet : String) (range : Sheets.CellRange)
  /-- Writes rows of cells. -/
  | valuesUpdate (spreadsheet : String) (range : Sheets.CellRange) (rows : List (List Json))
  /-- Reads a presentation. -/
  | slidesGet (presentation : String)
  /-- Changes a presentation. -/
  | slidesUpdate (presentation : String) (requests : List Slides.Request)
  /-- Loads the key of a service account. -/
  | loadServiceAccount (path : String) (scopes : List String)
  /-- Lets a service account act for a user. -/
  | actFor (account : Credentials) (email : String)
  /-- Loads a saved login. -/
  | loadLogin (path : String) (scopes : List String)
  /-- Prolongs a login. -/
  | refreshLogin (login : Credentials)
  /-- Loads what a login needs to know of the program. -/
  | loadClientSecrets (path : String) (scopes : List String)
  /-- Has the user log in by a browser. -/
  | logIn (port : Nat)
  /-- Builds the client of a service. -/
  | buildClient (service version : String) (credentials : Credentials)

namespace Call

/-- What an operation answers. -/
@[reducible]
def Kind.Reply : Kind → Type
  | gemini | openai => ModelReply
  | webGet | webHead => WebReply
  | sheetsGet | sheetsUpdate | valuesClear | valuesUpdate | slidesGet | slidesUpdate => Json
  | loadServiceAccount | actFor | refreshLogin | logIn => Credentials
  | loadLogin => SavedLogin
  | sleep | loadClientSecrets | buildClient => Unit

/-- What an operation is called in records. -/
def Kind.name : Kind → String
  | gemini => "gemini"
  | openai => "openai"
  | sleep => "sleep"
  | webGet => "http.get"
  | webHead => "http.head"
  | sheetsGet => "sheets.get"
  | sheetsUpdate => "sheets.batchUpdate"
  | valuesClear => "sheets.values.clear"
  | valuesUpdate => "sheets.values.update"
  | slidesGet => "slides.get"
  | slidesUpdate => "slides.batchUpdate"
  | loadServiceAccount => "auth.service_account_file"
  | actFor => "auth.with_subject"
  | loadLogin => "auth.user_file"
  | refreshLogin => "auth.refresh"
  | loadClientSecrets => "auth.client_secrets_file"
  | logIn => "auth.run_local_server"
  | buildClient => "auth.build"

/-- The operation that is called. -/
@[reducible]
def kind : Call → Kind
  | gemini .. => .gemini
  | openai .. => .openai
  | sleep .. => .sleep
  | webGet .. => .webGet
  | webHead .. => .webHead
  | sheetsGet .. => .sheetsGet
  | sheetsUpdate .. => .sheetsUpdate
  | valuesClear .. => .valuesClear
  | valuesUpdate .. => .valuesUpdate
  | slidesGet .. => .slidesGet
  | slidesUpdate .. => .slidesUpdate
  | loadServiceAccount .. => .loadServiceAccount
  | actFor .. => .actFor
  | loadLogin .. => .loadLogin
  | refreshLogin .. => .refreshLogin
  | loadClientSecrets .. => .loadClientSecrets
  | logIn .. => .logIn
  | buildClient .. => .buildClient

/-- What a call answers. -/
abbrev Reply (call : Call) : Type := call.kind.Reply

/-- The requests of an update as its body. -/
def requestsBody (requests : List Json) : Json :=
  .obj [("requests", .arr requests)]

/-- A file and the rights that are asked for it. -/
def fileArguments (path : String) (scopes : List String) : Fields :=
  [("path", .str path), ("scopes", .arr (scopes.map .str))]

/-- The arguments of a call in records, which do not show whose method is called. -/
def arguments : Call → Fields
  | gemini apiKey model prompt =>
    [("api_key", .str apiKey), ("model", .str model), ("prompt", .str prompt)]
  | openai model message =>
    [("model", .str model),
      ("messages", .arr [.obj [("role", .str "user"), ("content", .str message)]])]
  | sleep seconds => [("seconds", .float seconds)]
  | webGet url parameters timeout =>
    [("url", .str url), ("params", .obj (parameters.map fun (key, value) => (key, .str value))),
      ("timeout", .int timeout)]
  | webHead url timeout =>
    [("url", .str url), ("timeout", .int timeout), ("allow_redirects", .bool true)]
  | sheetsGet spreadsheet fields =>
    [("spreadsheetId", .str spreadsheet), ("fields", .str fields)]
  | sheetsUpdate spreadsheet requests =>
    [("spreadsheetId", .str spreadsheet), ("body", requestsBody (requests.map (·.toJson)))]
  | valuesClear spreadsheet range =>
    [("spreadsheetId", .str spreadsheet), ("range", .str range.text), ("body", .obj [])]
  | valuesUpdate spreadsheet range rows =>
    [("spreadsheetId", .str spreadsheet), ("range", .str range.text),
      ("valueInputOption", .str "RAW"), ("body", .obj [("values", .arr (rows.map .arr))])]
  | slidesGet presentation => [("presentationId", .str presentation)]
  | slidesUpdate presentation requests =>
    [("presentationId", .str presentation), ("body", requestsBody (requests.map (·.toJson)))]
  | loadServiceAccount path scopes => fileArguments path scopes
  | actFor _ email => [("email", .str email)]
  | loadLogin path scopes => fileArguments path scopes
  | refreshLogin _ => []
  | loadClientSecrets path scopes => fileArguments path scopes
  | logIn port => [("port", .int port)]
  | buildClient service version credentials =>
    [("api", .str service), ("version", .str version), ("credentials", .str credentials.name)]

end Call

end DeckPlan
