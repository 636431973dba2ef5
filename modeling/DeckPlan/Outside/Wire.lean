import DeckPlan.Outside.Call

/-!
# Replies as JSON

Calls can be answered by another process, or by a script, that writes replies as JSON.
`Call.Kind.readReply` reads the reply to a call of an operation; what is missing in it is left at
its default.
-/

namespace DeckPlan

/-- The text in a field, if there is one. -/
def textField? (fields : Fields) (key : String) : Option String :=
  match Fields.get? fields key with
  | some (.str text) => some text
  | _ => none

/-- The whole number in a field, if there is one. -/
def intField? (fields : Fields) (key : String) : Option Int :=
  match Fields.get? fields key with
  | some (.int value) => some value
  | _ => none

/-- Whether a field holds something other than `null`, `false`, zero or nothing. -/
def flagField (fields : Fields) (key : String) : Bool :=
  ((Fields.get? fields key).map Json.isGiven).getD false

/-- The fields of an object; other values have none. -/
def objectFields : Json → Fields
  | .obj fields => fields
  | _ => []

/-- The usage in a reply of a model, if there is one. -/
def readUsage (fields : Fields) : Option UsageReport :=
  match Fields.get? fields "usage" with
  | some (.obj usage) => some
    { prompt := intField? usage "prompt"
      output := intField? usage "output"
      total := intField? usage "total" }
  | _ => none

/-- The headers in a reply of a web server. -/
def readHeaders (fields : Fields) : List (String × String) :=
  (objectFields ((Fields.get? fields "headers").getD .null)).filterMap fun (name, value) =>
    match value with
    | .str text => some (name, text)
    | _ => none

/-- The reply of a model. -/
def readModelReply (fields : Fields) : ModelReply :=
  { text := textField? fields "text", usage := readUsage fields }

/-- The reply of a web server. -/
def readWebReply (fields : Fields) : WebReply :=
  { status := (intField? fields "status").getD 200
    reason := (textField? fields "reason").getD ""
    body := (textField? fields "body").getD ""
    headers := readHeaders fields }

/-- The credentials that a reply names. -/
def readCredentials (fields : Fields) : Credentials :=
  { name := (textField? fields "credentials").getD "" }

/-- A saved login. -/
def readSavedLogin (fields : Fields) : SavedLogin :=
  { credentials := readCredentials fields
    valid := flagField fields "valid"
    expired := flagField fields "expired"
    refreshable := flagField fields "refresh_token" }

/-- The reply to a call of an operation. -/
def Call.Kind.readReply : (kind : Call.Kind) → Json → kind.Reply
  | .gemini, value | .openai, value => readModelReply (objectFields value)
  | .webGet, value | .webHead, value => readWebReply (objectFields value)
  | .sheetsGet, value | .sheetsUpdate, value | .valuesClear, value | .valuesUpdate, value
  | .slidesGet, value | .slidesUpdate, value => value
  | .loadServiceAccount, value | .actFor, value | .refreshLogin, value | .logIn, value =>
    readCredentials (objectFields value)
  | .loadLogin, value => readSavedLogin (objectFields value)
  | .sleep, _ | .loadClientSecrets, _ | .buildClient, _ => ()

end DeckPlan
