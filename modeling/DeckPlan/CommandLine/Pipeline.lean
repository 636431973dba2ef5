import DeckPlan.CommandLine.Options
import DeckPlan.Guard.Verdict
import DeckPlan.Image.Check
import DeckPlan.Outside.Authorization

/-!
# A whole run

A run checks the inputs, asks a model whether they are meant well, asks it for topics, prints them,
and writes the presentation if one is named. Inputs that are refused and topics that cannot be had
end the run (`Outcome.stopped`); what goes wrong later is told to the user and does not. An empty
number of topics fails the run, as it cannot be compared with the bounds.
-/

namespace DeckPlan.CommandLine

/-- How a run ends. -/
inductive Outcome where
  /-- All was done. -/
  | finished
  /-- The run was given up, for the reason told. -/
  | stopped (reason : String)
  /-- The arguments make no sense. -/
  | misused (misuse : Misuse)
  /-- The user asked how the program is used. -/
  | helped
  deriving DecidableEq, Repr

/-- The number of images to choose from. -/
def imageResults : Int := 5

/-- The title of a topic. -/
def titleOf (topic : Fields) : String :=
  Topics.fieldText topic "topic"

/-- The address of an image for a topic. If the search fails, the default image is used. -/
def findImage (options : Options) (access : Image.SearchAccess) (title : String) :
    Program Json := do
  let search := Image.search access title options.filters (some imageResults)
  let found ← search.recover fun fault => do
    Program.log ("⚠️ Image search failed for " ++ Text.quoted title ++ ": " ++ fault.message)
    return ""
  -- The image is looked at outside of the recovery, so what fails here is not caught.
  Image.usableUrl (.str found) (.str options.defaultImageUrl)

/-- The key and the engine for the image search: those of the options, or else those of the
environment. -/
def searchAccess (env : Environment) (options : Options) : Image.SearchAccess :=
  { key := (nonempty? (some options.search.key)).getD (env.searchKey.getD "")
    engine := (nonempty? (some options.search.engine)).getD (env.searchEngine.getD "") }

/-- Gives every topic the address of an image. -/
def addImages (options : Options) (access : Image.SearchAccess) :
    List Fields → Program (List Fields)
  | [] => return []
  | topic :: rest => do
    let title := titleOf topic
    Program.log ("🔍 Searching image for: " ++ title)
    let url ← findImage options access title
    let later ← addImages options access rest
    return Fields.put "image_url" url topic :: later

/-- The topics as the slides show them: with images if the image search is configured. -/
def illustrate (env : Environment) (options : Options) (topics : List Fields) :
    Program (List Fields) :=
  let access := searchAccess env options
  if access.key.isEmpty || access.engine.isEmpty then return topics
  else addImages options access topics

/-- Writes topics into the presentation with the given clients. -/
def writePresentation (env : Environment) (options : Options) (clients : Slides.Clients)
    (topics : List Fields) : Program Unit := do
  if options.spreadsheet.isEmpty then
    Program.log "❌ --sheet-id is required when --presentation-id is set"
  else
    let topics ← illustrate env options topics
    (Slides.writeTopics clients options.spreadsheet options.presentation
      (.arr (topics.map .obj))).recover fun fault =>
        Program.log ("❌ Writing topics to presentation failed: " ++ fault.message)

/-- Writes topics into the presentation, unless the credentials for it are missing. -/
def writeDeck (env : Environment) (options : Options) (topics : List Fields) : Program Unit := do
  match ← (authorize env).attempt with
  | .ok clients => writePresentation env options clients topics
  | .error fault =>
    -- Only a file that is missing is excused.
    if fault.kind = .fileNotFound then
      Program.log ("⚠️ " ++ fault.message ++ "; skipping Slides editing")
    else .fail fault

/-- Whether the model refuses the inputs; a model that gives no verdict does not. -/
def screen (env : Environment) (options : Options) (inputs : Guard.Inputs) : Program Bool :=
  (Guard.isRejected env inputs options.model).recover fun fault => do
    Program.log ("⚠️ warning: classifier error: " ++ fault.message)
    return false

/-- Asks for at most `count` topics and prints them, and writes the presentation if one is named. -/
def present (env : Environment) (options : Options) (inputs : Guard.Inputs) (count : Int) :
    Program Outcome := do
  Program.log ("✨ Generating up to " ++ toString count ++ " topics with " ++
    options.model.display ++ "...")
  match ← (Topics.propose env inputs (some count) options.model).attempt with
  | .error fault => return .stopped ("❌ Topic generation failed: " ++ fault.message)
  | .ok report =>
    -- Neither the printing nor what follows is a part of the attempt.
    Program.print report.toJson.indented
    if options.presentation.isEmpty then return .finished
    else
      writeDeck env options report.topics
      return .finished

/-- The inputs of a run as they may be sent to a model, or why they are refused. -/
def checkedInputs (options : Options) : Except Fault Guard.Inputs :=
  Guard.validate (.str options.subject) (.str options.audience) (.str options.tone)

/-- Runs with the given settings, for at most `count` topics. -/
def plan (env : Environment) (options : Options) (count : Int) : Program Outcome := do
  match checkedInputs options with
  | .error fault => return .stopped ("❌ " ++ fault.message)
  | .ok inputs =>
    if ← screen env options inputs then
      return .stopped "❌ inputs flagged as gibberish or jailbreak attempt by model; aborting"
    else present env options inputs count

/-- Runs with the settings that the arguments give. -/
def run (env : Environment) (arguments : List String) : Program Outcome :=
  match readArguments env arguments with
  | .error misuse => return .misused misuse
  | .ok .help => return .helped
  | .ok (.plan options) =>
    if options.subject.isEmpty then return .stopped "❌ --subject is required"
    else
      match options.maxTopics with
      | some count => plan env options (Topics.clampTopics count)
      | none => .fail (.notComparable .arr "<=")

end DeckPlan.CommandLine
