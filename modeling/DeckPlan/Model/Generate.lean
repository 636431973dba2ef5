import DeckPlan.Json.Access
import DeckPlan.Outside.Environment
import DeckPlan.Outside.Program
import DeckPlan.Text.Case
import DeckPlan.Text.Occurrence

/-!
# Text from a model

`generate` sends a prompt to a model and yields its answer with the number of tokens used. The
name of the model says whose model it is; what the user gives in place of a name may be no text at
all, and then no model can be asked. `isRateLimit` recognises the errors of a service that was
asked too often.
-/

namespace DeckPlan.Model

/-- The number of tokens that a request used. -/
structure Usage where
  prompt : Int
  output : Int
  total : Int
  deriving DecidableEq, Repr

/-- What a model answered. -/
structure Reply where
  /-- The text, which is empty if the model gave none. -/
  text : String
  /-- The tokens used, if the model told. -/
  usage : Option Usage
  deriving DecidableEq, Repr

/-- The usage that a model reports, where an unknown number is zero. -/
def Usage.ofReport (report : UsageReport) : Usage :=
  { prompt := report.prompt.getD 0, output := report.output.getD 0, total := report.total.getD 0 }

/-- What a model answered, from the raw reply. -/
def Reply.ofRaw (raw : ModelReply) : Reply :=
  { text := raw.text.getD "", usage := raw.usage.map Usage.ofReport }

/-- Whether a model belongs to OpenAI; all others are Gemini models. -/
def isOpenai (model : String) : Bool :=
  "gpt-".toList.isPrefixOf model.toList

/-- The key for the Gemini models. -/
def geminiKey? (env : Environment) : Option String :=
  nonempty? env.googleApiKey <|> nonempty? env.geminiApiKey

/-- Sends a prompt to the model with a name. -/
def ask (env : Environment) (prompt model : String) : Program Reply :=
  if isOpenai model then
    match nonempty? env.openaiApiKey with
    | none => .fail .noOpenaiKey
    | some _ => do
      let raw : ModelReply ← Program.call (.openai model prompt)
      return .ofRaw raw
  else
    match geminiKey? env with
    | none => .fail .noGeminiKey
    | some key => do
      let raw : ModelReply ← Program.call (.gemini key model prompt)
      return .ofRaw raw

/-- Sends a prompt to a model, which must be named by a text. -/
def generate (env : Environment) (prompt : String) (model : Json) : Program Reply := do
  ask env prompt (← Program.ofExcept (model.text "startswith"))

/-- Whether a message is that of a service that was asked too often; a missing message is not. -/
def isRateLimit (message : Option String) : Bool :=
  match message with
  | none => false
  | some text =>
    -- In upper case the name of the status is found however it is written.
    let text := Text.upper text.toList
    Text.occursIn "429".toList text || Text.occursIn "RESOURCE_EXHAUSTED".toList text

end DeckPlan.Model
