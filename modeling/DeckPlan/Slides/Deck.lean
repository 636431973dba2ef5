import DeckPlan.Slides.Topic

/-!
# Writing a presentation

`writeTopics` replaces the slides of a presentation by those of the given topics: the old slides
and the charts of earlier runs are removed, the charts of the topics are drawn, and at the end all
new slides are written by one request.
-/

namespace DeckPlan.Slides

/-- The clients of the two services, each with the credentials it was built with. -/
structure Clients where
  slides : Option Credentials
  sheets : Option Credentials
  deriving DecidableEq, Repr

/-- The identifiers of the listed slides; entries without one are skipped. -/
def slideNames : List Json → Except Fault (List Json)
  | [] => .ok []
  | slide :: rest =>
    if slide.isGiven then do
      let name ← slide.field "objectId" .null
      let later ← slideNames rest
      return if name.isGiven then name :: later else later
    else slideNames rest

/-- The identifiers of the slides of a presentation. -/
def readSlides (reply : Json) : Except Fault (List Json) := do
  slideNames (← (← reply.field "slides" (.arr [])).items)

/-- Changes a presentation, where a failure is reported as one of the given step. -/
def update (presentation : String) (requests : List Request) (step : Fault → Fault) :
    Program Unit := do
  let outcome ← (Program.call (.slidesUpdate presentation requests)).attempt
  match outcome with
  | .ok _ => return ()
  | .error fault => .fail (step fault)

/-- Removes the slides of a presentation. -/
def deleteSlides (presentation : String) : Program Unit := do
  -- A failure to read the presentation is not reported as one of a step.
  let reply : Json ← Program.call (.slidesGet presentation)
  let slides ← Program.ofExcept (readSlides reply)
  if slides.isEmpty then return ()
  else
    update presentation (slides.map .deleteObject) .deletingSlides
    Program.log ("🧹 Deleted " ++ toString slides.length ++ " existing slide(s)")

/-- The requests for the slides of topics, the first of which has the number `index`. -/
def deckRequests (spreadsheet : String) : Nat → List Json → Program (List Request)
  | _, [] => return []
  | index, topic :: rest => do
    let first ← topicRequests spreadsheet index topic
    let later ← deckRequests spreadsheet (index + 1) rest
    return first ++ later

/-- Replaces the slides of a presentation by those of topics, given as an array. -/
def writeTopics (clients : Clients) (spreadsheet presentation : String) (topics : Json) :
    Program Unit := do
  if clients.slides.isNone then .fail .noSlidesClient
  else if clients.sheets.isNone then .fail .noSheetsClient
  else
    deleteSlides presentation
    -- Old slides and sheets are gone before the topics are looked at.
    Sheets.cleanUp spreadsheet
    let topics ← Program.ofExcept topics.items
    let requests ← deckRequests spreadsheet 0 topics
    if requests.isEmpty then return ()
    else
      update presentation requests .writingSlides
      Program.log ("✅ Wrote " ++ toString topics.length ++ " topic(s) to presentation " ++
        presentation)

end DeckPlan.Slides
