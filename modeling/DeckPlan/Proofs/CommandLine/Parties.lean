import DeckPlan.CommandLine.Pipeline
import DeckPlan.Proofs.Outside.Conduct

/-!
# Whom each part of a run calls

A model is called for the verdict on the inputs and for the topics, the web for images, and the
services of Google for the presentation. Each part keeps to its own parties
(`keepsTo_writePresentation`, `keepsTo_writeDeck`), and none of them prints anything.
-/

namespace DeckPlan

open Program

/-! ## Models -/

theorem Model.keepsTo_ask (env : Environment) (prompt name : String) :
    (ask env prompt name).KeepsTo [.model] := by
  unfold ask
  split
  · split
    · exact only_fail _
    · exact (keepsTo_call (by simp)).bind fun _ => only_done _
  · split
    · exact only_fail _
    · exact (keepsTo_call (by simp)).bind fun _ => only_done _

/-- A model is all that is called for text. -/
theorem Model.keepsTo_generate (env : Environment) (prompt : String) (model : Json) :
    (generate env prompt model).KeepsTo [.model] :=
  (only_ofExcept _).bind fun name => keepsTo_ask env prompt name

/-- A second question to a model comes after a pause. -/
theorem Guard.keepsTo_askPatiently (env : Environment) (prompt : String) (model : Json) :
    (askPatiently env prompt model).KeepsTo [.model, .time] := by
  have hgenerate : (Model.generate env prompt model).KeepsTo [.model, .time] :=
    (Model.keepsTo_generate env prompt model).mono (by simp)
  refine hgenerate.recover fun fault => ?_
  split
  · exact (keepsTo_call (by simp)).bind fun _ => hgenerate
  · exact only_fail _

/-- The verdict on inputs is that of a model. -/
theorem Guard.keepsTo_isRejected (env : Environment) (inputs : Inputs) (model : Json) :
    (isRejected env inputs model).KeepsTo [.model, .time] :=
  (keepsTo_askPatiently env _ model).bind fun _ => only_ofExcept _

/-- Topics come from a model, at the second attempt too. -/
theorem Topics.keepsTo_request (env : Environment) (prompt : String) (model : Json) :
    (request env prompt model).KeepsTo [.model] := by
  refine (Model.keepsTo_generate env prompt model).bind fun reply => ?_
  split
  · exact only_done _
  · split
    · refine (keepsTo_log _).bind fun _ =>
        (Model.keepsTo_generate env _ model).bind fun strict => ?_
      split
      · exact only_done _
      · exact only_fail _
    · exact only_fail _

/-- Whoever asks for topics calls models only. -/
theorem Topics.keepsTo_propose (env : Environment) (inputs : Guard.Inputs) (limit : Option Int)
    (model : Json) : (propose env inputs limit model).KeepsTo [.model] := by
  refine (only_take trivial).bind fun _ => (keepsTo_request env _ model).bind fun answer => ?_
  exact (only_take trivial).bind fun _ => (only_ofExcept _).bind fun _ => only_done _

/-! ## The web -/

/-- The search for an image calls the web only. -/
theorem Image.keepsTo_search (access : SearchAccess) (query : String) (filters : Filters)
    (count : Option Int) : (search access query filters count).KeepsTo [.web] := by
  unfold search
  split
  · exact only_fail _
  · split
    · exact only_fail _
    · exact (only_ofExcept _).bind fun _ =>
        (keepsTo_call (by simp)).bind fun _ => only_ofExcept _

/-- The check of an address calls the web only. -/
theorem Image.keepsTo_usableUrl (url fallback : Json) :
    (usableUrl url fallback).KeepsTo [.web] := by
  refine (only_ofExcept _).bind fun text => ?_
  split
  · refine (keepsTo_call (by simp)).attempt.bind fun outcome => ?_
    split
    · exact only_done _
    · split
      · exact only_done _
      · exact only_fail _
  · exact only_done _

/-! ## The services for the presentation -/

/-- To have the user log in takes calls of the authorization only. -/
theorem keepsTo_logIn : logIn.KeepsTo [.authorization] := by
  refine (only_take (.head _)).bind fun found => ?_
  split
  · exact (keepsTo_call (by simp)).bind fun _ => keepsTo_call (by simp)
  · exact only_fail _

/-- The files in which a login is kept are those of the authorization. -/
theorem keepsTo_saveLogin (credentials : Credentials) :
    (saveLogin credentials).KeepsTo [.authorization] :=
  (only_take (.head _)).bind fun _ => (only_take (.head _)).bind fun _ =>
    (only_take (.head _)).bind fun _ => (only_take (.head _)).bind fun _ => only_done _

/-- A saved login is looked for by the authorization. -/
theorem keepsTo_savedLogin : savedLogin?.KeepsTo [.authorization] := by
  refine (only_take (.head _)).bind fun found => ?_
  split
  · exact (keepsTo_call (by simp)).bind fun _ => only_done _
  · exact only_done _

/-- Credentials are got by the authorization alone, from whatever they come. -/
theorem keepsTo_getCredentials (env : Environment) :
    (getCredentials env).KeepsTo [.authorization] := by
  unfold getCredentials
  split
  · refine (only_take (.head _)).bind fun found => ?_
    split
    · refine (keepsTo_call (by simp)).bind fun _ => ?_
      split
      · exact only_done _
      · exact keepsTo_call (by simp)
    · exact only_fail _
  · refine keepsTo_savedLogin.bind fun state => ?_
    split
    · exact keepsTo_logIn.bind fun _ => keepsTo_saveLogin _
    · split
      · exact only_done _
      · split
        · exact (keepsTo_call (by simp)).bind fun _ => keepsTo_saveLogin _
        · exact keepsTo_logIn.bind fun _ => keepsTo_saveLogin _

/-- The authorization has its own calls, and the files are its own. -/
theorem keepsTo_authorize (env : Environment) : (authorize env).KeepsTo [.authorization] :=
  (keepsTo_getCredentials env).bind fun _ => (keepsTo_call (by simp)).bind fun _ =>
    (keepsTo_call (by simp)).bind fun _ => only_done _

/-- The listing is that of the spreadsheet. -/
theorem Sheets.keepsTo_list (spreadsheet : String) :
    (list spreadsheet).KeepsTo [.sheets spreadsheet] :=
  (keepsTo_call (by simp)).bind fun _ => only_ofExcept _

/-- No other spreadsheet is cleaned up. -/
theorem Sheets.keepsTo_cleanUp (spreadsheet : String) :
    (cleanUp spreadsheet).KeepsTo [.sheets spreadsheet] := by
  refine (keepsTo_list spreadsheet).bind fun sheets => (only_ofExcept _).bind fun doomed => ?_
  split
  · exact only_done _
  · refine (only_ofExcept _).bind fun requests =>
      (keepsTo_call (by simp)).attempt.bind fun outcome => ?_
    split
    · exact keepsTo_log _
    · exact (keepsTo_log _).bind fun _ => only_fail _

/-- A sheet is made in the spreadsheet and in no other one. -/
theorem Sheets.keepsTo_ensureSheet (spreadsheet title : String) :
    (ensureSheet spreadsheet title).KeepsTo [.sheets spreadsheet] := by
  refine (keepsTo_list spreadsheet).bind fun sheets => (only_ofExcept _).bind fun found => ?_
  split
  · exact only_done _
  · refine (keepsTo_call (by simp)).bind fun reply => ?_
    split
    · exact only_done _
    · exact only_fail _

/-- The table and the chart come into the spreadsheet. -/
theorem Sheets.keepsTo_drawChart (spreadsheet title : String) (dataset : Json) :
    (drawChart spreadsheet title dataset).KeepsTo [.sheets spreadsheet] := by
  unfold drawChart
  split
  · exact only_fail _
  · refine (only_ofExcept _).bind fun points => ?_
    split
    · exact only_fail _
    · refine (keepsTo_ensureSheet spreadsheet _).bind fun sheet =>
        (keepsTo_call (by simp)).bind fun _ => (only_ofExcept _).bind fun rows =>
          (keepsTo_call (by simp)).bind fun _ => (only_ofExcept _).bind fun items =>
            (keepsTo_call (by simp)).bind fun reply => ?_
      cases replyPart? reply ["addChart", "chart", "chartId"] with
      | none => exact only_fail _
      | some id => exact (keepsTo_log _).bind fun _ => only_done _

/-- The requests for a topic call for its chart only. -/
theorem Slides.keepsTo_topicRequests (spreadsheet presentation : String) (index : Int)
    (topic : Json) : (topicRequests spreadsheet index topic).KeepsTo
      [.sheets spreadsheet, .slides presentation] := by
  refine (only_take ⟨presentation, by simp⟩).bind fun suffix =>
    (only_ofExcept _).bind fun content => ?_
  dsimp only
  split
  · exact only_done _
  · refine Only.bind ?_ fun _ => only_done _
    exact ((Sheets.keepsTo_drawChart spreadsheet _ _).mono (by simp)).recover fun fault =>
      only_fail _

/-- The requests for all topics call for their charts only. -/
theorem Slides.keepsTo_deckRequests (spreadsheet presentation : String) (index : Nat)
    (topics : List Json) : (deckRequests spreadsheet index topics).KeepsTo
      [.sheets spreadsheet, .slides presentation] := by
  induction topics generalizing index with
  | nil => exact only_done _
  | cons topic rest ih =>
    exact (keepsTo_topicRequests spreadsheet presentation index topic).bind fun _ =>
      (ih (index + 1)).bind fun _ => only_done _

theorem Slides.keepsTo_update (presentation : String) (requests : List Request)
    (step : Fault → Fault) :
    (update presentation requests step).KeepsTo [.slides presentation] := by
  refine (keepsTo_call (by simp)).attempt.bind fun outcome => ?_
  split
  · exact only_done _
  · exact only_fail _

/-- The slides that are deleted are those of the presentation. -/
theorem Slides.keepsTo_deleteSlides (presentation : String) :
    (deleteSlides presentation).KeepsTo [.slides presentation] := by
  refine (keepsTo_call (by simp)).bind fun reply => (only_ofExcept _).bind fun slides => ?_
  split
  · exact only_done _
  · exact (keepsTo_update presentation _ _).bind fun _ => keepsTo_log _

/-- Topics are written into the presentation and the spreadsheet and nowhere else. -/
theorem Slides.keepsTo_writeTopics (clients : Clients) (spreadsheet presentation : String)
    (topics : Json) : (writeTopics clients spreadsheet presentation topics).KeepsTo
      [.sheets spreadsheet, .slides presentation] := by
  have hslides : ∀ {program : Program Unit}, program.KeepsTo [.slides presentation] →
      program.KeepsTo [.sheets spreadsheet, .slides presentation] := fun h => h.mono (by simp)
  unfold writeTopics
  split
  · exact only_fail _
  · split
    · exact only_fail _
    · refine (hslides (keepsTo_deleteSlides presentation)).bind fun _ =>
        ((Sheets.keepsTo_cleanUp spreadsheet).mono (by simp)).bind fun _ =>
          (only_ofExcept _).bind fun topics =>
            (keepsTo_deckRequests spreadsheet presentation 0 topics).bind fun requests => ?_
      split
      · exact only_done _
      · exact (hslides (keepsTo_update presentation _ _)).bind fun _ => keepsTo_log _

namespace CommandLine

/-- A model is asked about the inputs, and after a pause once more. -/
theorem keepsTo_screen (env : Environment) (options : Options) (inputs : Guard.Inputs) :
    (screen env options inputs).KeepsTo [.model, .time] :=
  (Guard.keepsTo_isRejected env inputs options.model).recover fun _ =>
    (keepsTo_log _).bind fun _ => only_done _

/-- The image of a topic comes from the web. -/
theorem keepsTo_findImage (options : Options) (access : Image.SearchAccess) (title : String) :
    (findImage options access title).KeepsTo [.web] := by
  refine Only.bind ?_ fun _ => Image.keepsTo_usableUrl _ _
  exact (Image.keepsTo_search access title options.filters _).recover fun _ =>
    (keepsTo_log _).bind fun _ => only_done _

theorem keepsTo_addImages (options : Options) (access : Image.SearchAccess)
    (topics : List Fields) : (addImages options access topics).KeepsTo [.web] := by
  induction topics with
  | nil => exact only_done _
  | cons topic rest ih =>
    exact (keepsTo_log _).bind fun _ => (keepsTo_findImage options access _).bind fun _ =>
      ih.bind fun _ => only_done _

/-- The images of all topics come from the web. -/
theorem keepsTo_illustrate (env : Environment) (options : Options) (topics : List Fields) :
    (illustrate env options topics).KeepsTo [.web] := by
  unfold illustrate
  dsimp only
  split
  · exact only_done _
  · exact keepsTo_addImages options _ topics

/-- Whom the writing of a presentation calls: the web and the two services, for the documents that
the options name. -/
theorem keepsTo_writePresentation (env : Environment) (options : Options)
    (clients : Slides.Clients) (topics : List Fields) :
    (writePresentation env options clients topics).KeepsTo
      [.web, .sheets options.spreadsheet, .slides options.presentation] := by
  unfold writePresentation
  split
  · exact keepsTo_log _
  · refine ((keepsTo_illustrate env options topics).mono (by simp)).bind fun topics => ?_
    exact ((Slides.keepsTo_writeTopics clients _ _ _).mono (by simp)).recover fun _ =>
      keepsTo_log _

/-- The services are asked for authorization before. -/
theorem keepsTo_writeDeck (env : Environment) (options : Options) (topics : List Fields) :
    (writeDeck env options topics).KeepsTo
      [.authorization, .web, .sheets options.spreadsheet, .slides options.presentation] := by
  refine Only.bind ((keepsTo_authorize env).mono (by simp)).attempt fun outcome => ?_
  split
  · exact (keepsTo_writePresentation env options _ topics).mono (by simp)
  · split
    · exact keepsTo_log _
    · exact only_fail _

end CommandLine

end DeckPlan
