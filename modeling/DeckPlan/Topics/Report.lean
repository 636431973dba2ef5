import DeckPlan.Model.Generate
import DeckPlan.Topics.Answer
import DeckPlan.Topics.Dataset
import DeckPlan.Topics.Prompt

/-!
# Topics for a presentation

`propose` asks a model for topics. An answer that cannot be read leads to one stricter request,
unless it is nested too deeply; the second answer is final, and topics and token counts come from
the same answer. The report holds the cleaned topics and what is known of the request.
-/

namespace DeckPlan.Topics

/-- The model that is asked unless another one is named. -/
def defaultModel : String := "gemini-2.0-flash"

/-- The greatest number of topics, and the usual one. -/
def maxTopics : Int := 5

/-- A number of topics within the bounds; one out of them becomes the usual one. -/
def clampTopics (count : Int) : Int :=
  if count ≤ 0 || count > maxTopics then maxTopics else count

/-- Topics and what is known of the request for them. -/
structure Report where
  topics : List Fields
  model : Json
  /-- The time that the request took, in milliseconds. -/
  latency : Int
  usage : Option Model.Usage

/-- A token count, which is left out if it is zero. -/
def countField (key : String) (count : Int) : Fields :=
  if count = 0 then [] else [(key, .int count)]

/-- The token counts of a request. -/
def usageFields (usage : Model.Usage) : Fields :=
  countField "prompt_tokens" usage.prompt ++ countField "output_tokens" usage.output ++
    countField "total_tokens" usage.total

/-- The report as JSON. -/
def Report.toJson (report : Report) : Json :=
  .obj [("topics", .arr (report.topics.map .obj)),
    ("meta", .obj ([("model", report.model), ("latency_ms", .int report.latency)] ++
      (report.usage.map usageFields).getD []))]

/-- The first topics up to a limit; a negative one counts the topics left out at the end. -/
def firstTopics (limit : Option Int) (topics : List Fields) : List Fields :=
  match limit with
  | none => topics
  | some count =>
    if 0 ≤ count then topics.take count.toNat
    else topics.take (topics.length - (-count).toNat)

/-- What is told to the user when an answer cannot be read. -/
def retryNotice : String :=
  "⚠️ Model reply was not valid JSON, retrying with strict instructions..."

/-- Asks the model for topics, a second time if the first answer cannot be read. -/
def request (env : Environment) (prompt : String) (model : Json) :
    Program (List Fields × Option Model.Usage) := do
  let reply ← Model.generate env prompt model
  match readTopics reply.text with
  | .ok topics => return (topics, reply.usage)
  | .error fault =>
    if fault.isValueFault then
      Program.log retryNotice
      let reply ← Model.generate env (prompt ++ strictSuffix) model
      match readTopics reply.text with
      | .ok topics => return (topics, reply.usage)
      | .error fault =>
        .fail (if fault.isValueFault then .unusableTopics fault reply.text else fault)
    else .fail fault

/-- The whole milliseconds between two readings of the clock. -/
def milliseconds (started stopped : Binary64) : Except Fault Int :=
  let elapsed := (stopped - started).times 1000
  match elapsed.truncate? with
  | some whole => .ok whole
  | none => .error (if elapsed = .nan then .latencyNotANumber else .infiniteLatency)

/-- Asks a model for topics. -/
def propose (env : Environment) (inputs : Guard.Inputs) (limit : Option Int) (model : Json) :
    Program Report := do
  let prompt := topicPrompt inputs limit
  let started ← Program.readClock
  let (topics, usage) ← request env prompt model
  let stopped ← Program.readClock
  -- Readings that are not finite let the request fail, though there are topics.
  let latency ← Program.ofExcept (milliseconds started stopped)
  return { topics := (firstTopics limit topics).map normalize, model, latency, usage }

end DeckPlan.Topics
