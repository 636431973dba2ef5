import DeckPlan.Proofs.CommandLine.Parties
import DeckPlan.Proofs.Outside.Course
import DeckPlan.Proofs.Slides.Deck

/-!
# How the writing of a presentation fails

A presentation is written in stages (`Stage`), and the calls so far tell the stage of the next one
(`stage?`): the spreadsheet is listed once for the cleanup and once for each chart. Whatever fails
ends the writing, with a fault that tells the stage and the cause (`isReport_writeTopics`). The two
stages without a name pass the cause on as it is (`not_runtime_of_refusedListing`).
-/

namespace DeckPlan

open Program

/-! ## What goes wrong -/

namespace Sheets

/-- What is wrong with the reply to a request for a chart: it does not name what was added. -/
def malformed? (requests : List Request) (reply : Json) : Option Fault :=
  match requests with
  | [.addSheet title] =>
    if (addedSheet? reply).isSome then none else some (.noSheetReply title)
  | [.addChart _] => if (addedChart? reply).isSome then none else some .noChartReply
  | _ => none

end Sheets

namespace Event

/-- What goes wrong in an event: a call fails, or the reply to a request for a chart is
malformed. -/
def cause? : Event → Option Fault
  | ⟨.call _, .error fault⟩ => some fault
  | ⟨.call (.sheetsUpdate _ requests), .ok reply⟩ => Sheets.malformed? requests reply
  | _ => none

/-- Something goes wrong. -/
def Fails (event : Event) : Prop :=
  ∃ cause, event.cause? = some cause

/-- The spreadsheet that is asked for or changed. -/
def spreadsheet? (event : Event) : Option String :=
  event.call?.bind Sheets.spreadsheet?

end Event

/-- Nothing goes wrong in a program that calls nobody. -/
theorem endsBy_of_keepsTo_nil {α : Type} {program : Program α}
    {report : List Event → Event → Fault → Prop} (h : program.KeepsTo []) :
    program.EndsBy Event.Fails report := by
  refine endsBy_of_only h fun event hwithin ⟨fault, hfault⟩ => ?_
  obtain ⟨action, answer⟩ := event
  cases action with
  | call request => exact absurd hwithin List.not_mem_nil
  | _ => cases hfault

/-! ## Listings -/

/-- Whether the sheets of a spreadsheet are listed. -/
def Call.isListing : Call → Bool
  | sheetsGet .. => true
  | _ => false

/-- How often the sheets of a spreadsheet are listed. -/
def listings (events : List Event) : Nat :=
  (callsIn events).countP Call.isListing

/-- Listings add up. -/
theorem listings_append (first second : List Event) :
    listings (first ++ second) = listings first + listings second := by
  rw [listings, callsIn_append, List.countP_append]
  rfl

theorem listings_cons (event : Event) (rest : List Event) :
    listings (event :: rest) = listings [event] + listings rest :=
  listings_append [event] rest

/-- Nothing is listed where no spreadsheet is asked for. -/
theorem listings_eq_zero {α : Type} {parties : List Party} {program : Program α}
    {events : List Event} {outcome : Except Fault α} (h : program.KeepsTo parties)
    (hparties : ∀ spreadsheet, .sheets spreadsheet ∉ parties)
    (hcourse : program.Course events outcome) : listings events = 0 := by
  refine List.countP_eq_zero.2 fun request hmem => ?_
  obtain ⟨reply, hevent⟩ := mem_callsIn.1 hmem
  have hparty : request.party ∈ parties := h.forall_mem_course hcourse _ hevent
  cases request with
  | sheetsGet spreadsheet => exact absurd hparty (hparties spreadsheet)
  | _ => exact Bool.false_ne_true

/-- A course that follows an order to its end lists as often as the order says. -/
theorem listings_of_follows {α : Type} {program : Program α} {events : List Event} {value : α}
    {n : Nat} (h : program.Course events (.ok value))
    (hfollows : ∀ exchanges, program.Dialogue exchanges (.ok value) → ∃ order usable,
      Follows usable order exchanges (.ok value) ∧
        (order.map Step.call).countP Call.isListing = n) :
    listings events = n := by
  obtain ⟨exchanges, hdialogue, hcalls⟩ := h.dialogue
  obtain ⟨order, usable, horder, hcount⟩ := hfollows exchanges hdialogue
  rw [listings, ← hcalls, horder.eq_of_ok, List.map_map, ← hcount]
  rfl

/-! ## Charts -/

namespace Sheets

variable {spreadsheet : String} {events : List Event}

/-- The sheets are listed once to find a sheet. -/
theorem countP_sheetSteps (spreadsheet title : String) (listing reply : Json) :
    ((sheetSteps spreadsheet title listing reply).map Step.call).countP Call.isListing = 1 := by
  rw [sheetSteps]
  split <;> rfl

/-- The sheets are listed once to draw a chart. -/
theorem countP_chartSteps (spreadsheet tab : String) (dataset : Json) (replies : ChartReplies) :
    ((chartSteps spreadsheet tab dataset replies).map Step.call).countP Call.isListing = 1 := by
  rw [chartSteps, List.map_append, List.countP_append, countP_sheetSteps]
  rfl

/-- A sheet that is found or made was looked for in one listing. -/
theorem listings_of_ensureSheet {title : String} {sheet : Json}
    (h : (ensureSheet spreadsheet title).Course events (.ok sheet)) : listings events = 1 := by
  refine listings_of_follows h fun exchanges hdialogue => ?_
  obtain ⟨listing, reply, hfollows, -⟩ := follows_ensureSheet hdialogue
  exact ⟨_, _, hfollows, countP_sheetSteps spreadsheet title listing reply⟩

/-- A chart that is drawn took one listing. -/
theorem listings_of_drawChart {title : String} {dataset chart : Json}
    (h : (drawChart spreadsheet title dataset).Course events (.ok chart)) :
    listings events = 1 := by
  refine listings_of_follows h fun exchanges hdialogue => ?_
  obtain ⟨replies, hfollows, -⟩ := follows_drawChart hdialogue
  exact ⟨_, _, hfollows, countP_chartSteps spreadsheet _ dataset replies⟩

/-- A cleanup that is done took one listing. -/
theorem listings_of_cleanUp (h : (cleanUp spreadsheet).Course events (.ok ())) :
    listings events = 1 := by
  refine listings_of_follows h fun exchanges hdialogue => ?_
  obtain ⟨listing, reply, hfollows⟩ := follows_cleanUp hdialogue
  refine ⟨_, _, hfollows, ?_⟩
  rw [cleanupSteps]
  split <;> rfl

/-- A cleanup is no request for a chart, so its reply is not malformed. -/
theorem malformed?_of_removalRequests {count : Nat} {doomed : List Json} {requests : List Request}
    (h : removalRequests count doomed = .ok requests) (hne : doomed ≠ []) (reply : Json) :
    malformed? requests reply = none := by
  obtain ⟨removals, hremovals, hrequests⟩ := bind_eq_ok.1 h
  obtain rfl := eq_map_deleteSheet hremovals
  obtain ⟨sheet, rest, rfl⟩ := List.exists_cons_of_ne_nil hne
  cases hrequests
  cases rest <;> split <;> rfl

/-- What goes wrong while a chart is drawn, in a call to the sheets service after the listing of the
sheets. The sheets were listed `seen` times before. -/
def Faults (seen : Nat) (before : List Event) (event : Event) (fault : Fault) : Prop :=
  event.cause? = some fault ∧ event.spreadsheet?.isSome ∧ seen + listings (before ++ [event]) = 1

theorem faults_append (seen : Nat) (first : List Event) :
    (fun before => Faults seen (first ++ before)) = Faults (seen + listings first) := by
  funext before event fault
  rw [Faults, List.append_assoc, listings_append, ← Nat.add_assoc]
  rfl

/-- Whoever goes on after a listing ends by its failure or later. -/
theorem endsBy_list_bind {α : Type} {next : List Json → Program α}
    {report : List Event → Event → Fault → Prop}
    (hfail : ∀ fault, report [] ⟨.call (.sheetsGet spreadsheet listedFields), .error fault⟩ fault)
    (hnext : ∀ (listing : Json) sheets, (next sheets).EndsBy Event.Fails fun before =>
      report ([⟨.call (.sheetsGet spreadsheet listedFields), .ok listing⟩] ++ before)) :
    ((list spreadsheet).bind next).EndsBy Event.Fails report := by
  have hassoc : (list spreadsheet).bind next =
      (call (.sheetsGet spreadsheet listedFields)).bind fun listing =>
        (ofExcept (readListing listing)).bind next :=
    bind_assoc _ _ _
  rw [hassoc]
  refine endsBy_call_bind (fun fault _ => hfail fault) (fun listing ⟨_, h⟩ => nomatch h)
    fun listing => ?_
  exact endsBy_ofExcept_bind fun sheets _ => hnext listing sheets

/-- Whoever adds something for a chart ends by a failure, by a malformed reply or later. -/
theorem endsBy_addition {α : Type} {requests : List Request} {read : Json → Option Json}
    {fault : Fault} {next : Json → Program α}
    (hreply : ∀ reply, malformed? requests reply =
      if (read reply).isSome then none else some fault)
    (hnone : ∀ reply, read reply = none → next reply = fail fault)
    (hsome : ∀ reply id, read reply = some id → (next reply).EndsBy Event.Fails (Faults 1)) :
    ((call (.sheetsUpdate spreadsheet requests)).bind next).EndsBy Event.Fails (Faults 1) := by
  refine endsBy_call_bind (fun fault _ => ⟨rfl, rfl, rfl⟩) (fun reply ⟨cause, hcause⟩ => ?_)
    fun reply => ?_
  -- A reply that goes wrong lacks the identifier that is read from it.
  · change malformed? requests reply = some cause at hcause
    rw [hreply] at hcause
    cases hread : read reply with
    | some id =>
      rw [hread] at hcause
      cases hcause
    | none =>
      refine ⟨fault, hnone reply hread, ?_, rfl, rfl⟩
      change malformed? requests reply = some fault
      rw [hreply, hread]
      rfl
  · rw [faults_append]
    cases hread : read reply with
    | some id => exact hsome reply id hread
    | none =>
      rw [hnone reply hread]
      exact endsBy_ofExcept (.error fault)

/-- What fails while a sheet is looked for ends the search for it. -/
theorem endsBy_ensureSheet (spreadsheet title : String) :
    (ensureSheet spreadsheet title).EndsBy Event.Fails (Faults 0) := by
  refine endsBy_list_bind (fun fault => ⟨rfl, rfl, rfl⟩) fun listing sheets => ?_
  rw [faults_append]
  refine endsBy_ofExcept_bind fun found _ => ?_
  split
  · exact endsBy_done _
  · refine endsBy_addition (fun reply => rfl) (fun reply hnone => ?_) fun reply sheet hsome => ?_
    · rw [show replyPart? reply _ = none from hnone]
    · rw [show replyPart? reply _ = some sheet from hsome]
      exact endsBy_done _

/-- What fails while a chart is drawn ends the drawing. -/
theorem endsBy_drawChart (spreadsheet title : String) (dataset : Json) :
    (drawChart spreadsheet title dataset).EndsBy Event.Fails (Faults 0) := by
  unfold drawChart
  split
  · exact endsBy_ofExcept (.error _)
  refine endsBy_ofExcept_bind fun points _ => ?_
  split
  · exact endsBy_ofExcept (.error _)
  -- The sheets are listed to find the one for the table, and not again.
  refine (endsBy_ensureSheet spreadsheet _).bind fun sheet first hfirst => ?_
  rw [faults_append, listings_of_ensureSheet hfirst]
  refine endsBy_call_bind (fun fault _ => ⟨rfl, rfl, rfl⟩) (fun reply ⟨_, h⟩ => nomatch h)
    fun cleared => ?_
  rw [faults_append]
  refine endsBy_ofExcept_bind fun rows _ => ?_
  refine endsBy_call_bind (fun fault _ => ⟨rfl, rfl, rfl⟩) (fun reply ⟨_, h⟩ => nomatch h)
    fun written => ?_
  rw [faults_append]
  refine endsBy_ofExcept_bind fun items _ => ?_
  refine endsBy_addition (fun reply => rfl) (fun reply hnone => ?_) fun reply chart hsome => ?_
  · rw [show replyPart? reply _ = none from hnone]
  · rw [show replyPart? reply _ = some chart from hsome]
    exact endsBy_of_keepsTo_nil ((keepsTo_log _).bind fun _ => only_done _)

end Sheets

/-! ## Stages -/

namespace Slides

/-- The stages in which a presentation is written. -/
inductive Stage where
  /-- The old slides are listed. -/
  | listing
  /-- The old slides are removed. -/
  | removal
  /-- The spreadsheet is cleaned up. -/
  | cleanup
  /-- The chart of the topic with the given title is drawn. -/
  | chart (topic : Json)
  /-- The new slides are written. -/
  | writing

namespace Stage

/-- What a stage is called in reports. -/
def name? : Stage → Option String
  | listing | cleanup => none
  | removal => some "delete existing slides"
  | chart topic => some ("create sheets chart for topic " ++ topic.inspect)
  | writing => some "batch update"

/-- The fault by which the stage ends for the given cause. -/
def fault (cause : Fault) : Stage → Fault
  | listing | cleanup => cause
  | removal => .deletingSlides cause
  | chart topic => .drawingChart topic cause
  | writing => .writingSlides cause

/-- A fault tells of the cause in the stage: it is a failed step, and its message names the stage
and holds the message of the cause. In a stage without a name it is the cause itself. -/
def IsReport (stage : Stage) (cause fault : Fault) : Prop :=
  match stage.name? with
  | some name => fault.kind = .runtime ∧ fault.message = name ++ ": " ++ cause.message
  | none => fault = cause

/-- The fault of a stage is the report on its cause. -/
theorem isReport_fault (stage : Stage) (cause : Fault) :
    stage.IsReport cause (stage.fault cause) := by
  cases stage with
  | listing | cleanup => exact rfl
  | removal | writing => exact ⟨rfl, rfl⟩
  | chart topic => exact ⟨rfl, rfl⟩

end Stage

/-- The titles of the topics that have data, in order. -/
def chartedTitles (topics : List Json) : List Json :=
  (topics.filter fun topic => (chartData? topic).isSome).map fun topic =>
    (topic.field? "topic").getD .null

/-- The stage of a call, where the topics with the given titles are charted and the sheets have been
listed `listed` times, this call included. -/
def stage? (charted : List Json) (listed : Nat) : Call → Option Stage
  | .slidesGet _ => some .listing
  | .slidesUpdate .. => some (if listed = 0 then .removal else .writing)
  | .sheetsGet .. | .sheetsUpdate .. | .valuesClear .. | .valuesUpdate .. =>
    if listed ≤ 1 then some .cleanup else charted[listed - 2]?.map .chart
  | _ => none

/-- A fault tells what went wrong in the event, in the stage that the event belongs to after the
events before. The sheets were listed `seen` times even before. -/
def Reports (charted : List Json) (seen : Nat) (before : List Event) (event : Event)
    (fault : Fault) : Prop :=
  ∃ cause stage, event.cause? = some cause ∧
    event.call?.bind (stage? charted (seen + listings (before ++ [event]))) = some stage ∧
    fault = stage.fault cause

theorem reports_append (charted : List Json) (seen : Nat) (first : List Event) :
    (fun before => Reports charted seen (first ++ before)) =
      Reports charted (seen + listings first) := by
  funext before event fault
  rw [Reports, List.append_assoc, listings_append, ← Nat.add_assoc]
  rfl

variable {charted : List Json} {seen : Nat} {spreadsheet presentation : String}

/-- Whoever changes a presentation ends by the failure of the call. -/
theorem endsBy_update {requests : List Request} {stage : Stage} {step : Fault → Fault}
    (hstage : stage? charted seen (.slidesUpdate presentation requests) = some stage)
    (hstep : ∀ cause, step cause = stage.fault cause) :
    (update presentation requests step).EndsBy Event.Fails (Reports charted seen) := by
  refine endsBy_act (fun reply hfails events outcome hcourse => ?_) fun reply => ?_
  · cases reply with
    | error cause => exact ⟨step cause, hcourse.2, cause, stage, rfl, hstage, hstep cause⟩
    | ok reply =>
      obtain ⟨cause, hcause⟩ := hfails
      cases hcause
  · cases reply with
    | error cause => exact endsBy_ofExcept (.error (step cause))
    | ok reply => exact endsBy_done ()

/-- What fails while slides are deleted is told for that stage. -/
theorem endsBy_deleteSlides (charted : List Json) (presentation : String) :
    (deleteSlides presentation).EndsBy Event.Fails (Reports charted 0) := by
  refine endsBy_call_bind (fun fault _ => ⟨fault, .listing, rfl, rfl, rfl⟩)
    (fun reply ⟨_, h⟩ => nomatch h) fun reply => ?_
  rw [reports_append]
  refine endsBy_ofExcept_bind fun slides _ => ?_
  split
  · exact endsBy_done ()
  · exact (endsBy_update rfl fun cause => rfl).bind fun _ _ _ =>
      endsBy_of_keepsTo_nil (keepsTo_log _)

/-- What fails in a cleanup is told for that stage. -/
theorem endsBy_cleanUp (charted : List Json) (spreadsheet : String) :
    (Sheets.cleanUp spreadsheet).EndsBy Event.Fails (Reports charted 0) := by
  refine Sheets.endsBy_list_bind (fun fault => ⟨fault, .cleanup, rfl, rfl, rfl⟩)
    fun listing sheets => ?_
  rw [reports_append]
  refine endsBy_ofExcept_bind fun doomed _ => ?_
  split
  · exact endsBy_done ()
  next hne =>
  refine endsBy_ofExcept_bind fun requests hrequests => ?_
  refine endsBy_act (fun reply hfails events outcome hcourse => ?_) fun reply => ?_
  · cases reply with
    | error cause =>
      obtain ⟨rest, -, hfail⟩ := course_log_bind.1 hcourse
      exact ⟨cause, hfail.2, cause, .cleanup, rfl, rfl, rfl⟩
    | ok reply =>
      obtain ⟨cause, hcause⟩ := hfails
      change Sheets.malformed? requests reply = some cause at hcause
      -- What is removed is never a single addition.
      rw [Sheets.malformed?_of_removalRequests hrequests (by simpa using hne)] at hcause
      cases hcause
  · cases reply with
    | error cause =>
      exact endsBy_of_keepsTo_nil ((keepsTo_log _).bind fun _ => only_fail cause)
    | ok reply => exact endsBy_of_keepsTo_nil (keepsTo_log _)

/-! ## Topics -/

theorem TopicContent.label_eq {topic : Json} {content : TopicContent}
    (h : TopicContent.of topic = .ok content) :
    content.label = (topic.field? "topic").getD .null := by
  obtain ⟨label, hlabel, h⟩ := bind_eq_ok.1 h
  obtain ⟨titleField, -, h⟩ := bind_eq_ok.1 h
  obtain ⟨title, -, h⟩ := bind_eq_ok.1 h
  obtain ⟨image, -, h⟩ := bind_eq_ok.1 h
  obtain ⟨summaryField, -, h⟩ := bind_eq_ok.1 h
  obtain ⟨summary, -, h⟩ := bind_eq_ok.1 h
  obtain ⟨dataset, -, h⟩ := bind_eq_ok.1 h
  obtain ⟨-, -, rfl⟩ := Json.field_eq_ok.1 hlabel
  dsimp only at h
  split at h
  · obtain ⟨charted, -, hend⟩ := bind_eq_ok.1 h
    cases hend
    rfl
  · cases h
    rfl

/-- The charts of the first topic come first. -/
theorem chartedTitles_cons (topic : Json) (rest : List Json) :
    chartedTitles (topic :: rest) = chartedTitles [topic] ++ chartedTitles rest := by
  rw [chartedTitles, chartedTitles, chartedTitles, ← List.map_append, ← List.filter_append]
  rfl

/-- The title of a topic that has data is the next one among those of the charted topics. -/
theorem chartedTitles_of_content {topic dataset : Json} {content : TopicContent}
    (hcontent : TopicContent.of topic = .ok content) (hdataset : content.dataset = some dataset) :
    chartedTitles [topic] = [content.label] := by
  rw [chartedTitles, content.label_eq hcontent, List.filter_cons_of_pos]
  · rfl
  · rw [← content.dataset_eq hcontent, hdataset]
    rfl

/-- A topic without data has no chart. -/
theorem chartedTitles_eq_nil {topic : Json} {content : TopicContent}
    (hcontent : TopicContent.of topic = .ok content) (hdataset : content.dataset = none) :
    chartedTitles [topic] = [] := by
  rw [chartedTitles, List.filter_cons_of_neg]
  · rfl
  · rw [← content.dataset_eq hcontent, hdataset]
    exact Bool.false_ne_true

/-- Which chart a call to the spreadsheet belongs to shows in the number of listings before. -/
theorem stage?_of_spreadsheet? {request : Call} (h : (Sheets.spreadsheet? request).isSome)
    (charted : List Json) (listed : Nat) :
    stage? charted listed request =
      if listed ≤ 1 then some .cleanup else charted[listed - 2]?.map .chart := by
  cases request with
  | sheetsGet | sheetsUpdate | valuesClear | valuesUpdate => rfl
  | _ => cases h

/-- The chart that is drawn after `n` other charts is that of the topic behind `n` charted ones. -/
theorem endsBy_drawTopicChart {n : Nat} {label : Json} (hlabel : charted[n]? = some label)
    (spreadsheet : String) (index : Int) (dataset : Json) :
    (drawTopicChart spreadsheet index label dataset).EndsBy Event.Fails
      (Reports charted (n + 1)) := by
  refine (Sheets.endsBy_drawChart spreadsheet _ dataset).recover_fail.mono ?_
  rintro before event fault ⟨cause, ⟨hcause, hspreadsheet, hlisted⟩, rfl⟩
  obtain ⟨spreadsheet, hspreadsheet⟩ := Option.isSome_iff_exists.1 hspreadsheet
  obtain ⟨request, hcall, hrequest⟩ := Option.bind_eq_some_iff.1 hspreadsheet
  refine ⟨cause, .chart label, hcause, ?_, rfl⟩
  rw [Nat.zero_add] at hlisted
  rw [hcall, Option.bind_some, stage?_of_spreadsheet? (by rw [hrequest]; rfl), hlisted,
    if_neg (by omega)]
  exact congrArg (Option.map Stage.chart) hlabel

/-- The sheets are listed for a topic if it has data. -/
theorem listings_of_topicRequests {index : Int} {topic : Json} {events : List Event}
    {requests : List Request}
    (h : (topicRequests spreadsheet index topic).Course events (.ok requests)) :
    listings events = (chartedTitles [topic]).length := by
  obtain ⟨suffix, events, rfl, hslides⟩ := course_drawSuffix_bind.1 h
  rw [listings_cons]
  rcases trace_bind.1 hslides with ⟨fault, -, hfail⟩ | ⟨content, first, rest, rfl, hread, hrest⟩
  · cases hfail
  obtain ⟨rfl, hcontent⟩ := trace_ofExcept.1 hread
  dsimp only at hrest
  split at hrest
  · next hnone =>
    obtain ⟨rfl, -⟩ := hrest
    rw [chartedTitles_eq_nil hcontent.symm hnone]
    rfl
  · next dataset hsome =>
    rcases trace_bind.1 hrest with ⟨fault, -, hfail⟩ | ⟨chart, first, last, rfl, hchart, hend⟩
    · cases hfail
    -- The slide is put together without a call, so all listings are those of the drawing.
    rw [chartSlide_eq] at hend
    obtain ⟨rfl, -⟩ := hend
    rcases trace_recover.1 hchart with
      ⟨value, hdrawn, -⟩ | ⟨fault, first, last, -, -, -, hfail⟩
    · rw [chartedTitles_of_content hcontent.symm hsome, List.nil_append, List.append_nil,
        Sheets.listings_of_drawChart hdrawn]
      rfl
    · cases hfail

/-- The chart of the first of some topics is drawn after those of the charted topics before. -/
theorem endsBy_topicRequests (spreadsheet : String) (index : Int) (topic : Json)
    (before rest : List Json) :
    (topicRequests spreadsheet index topic).EndsBy Event.Fails
      (Reports (before ++ (chartedTitles [topic] ++ rest)) (before.length + 1)) := by
  refine endsBy_act (fun suffix ⟨_, h⟩ => nomatch h) fun suffix => ?_
  rw [reports_append]
  refine endsBy_ofExcept_bind fun _ hsuffix => ?_
  obtain rfl := Except.ok.inj hsuffix
  refine endsBy_ofExcept_bind fun content hcontent => ?_
  dsimp only
  split
  · exact endsBy_done _
  · next dataset hsome =>
    rw [chartedTitles_of_content hcontent hsome]
    refine (endsBy_drawTopicChart ?_ spreadsheet index dataset).bind fun _ _ _ =>
      (endsBy_ofExcept _).bind fun _ _ _ => endsBy_done _
    rw [List.getElem?_append_right (Nat.le_refl _), Nat.sub_self]
    rfl

/-- The charts of topics are drawn one after the other, after those of the charted topics before. -/
theorem endsBy_deckRequests (spreadsheet : String) (index : Nat) (before topics : List Json) :
    (deckRequests spreadsheet index topics).EndsBy Event.Fails
      (Reports (before ++ chartedTitles topics) (before.length + 1)) := by
  induction topics generalizing index before with
  | nil => exact endsBy_done []
  | cons topic rest ih =>
    rw [chartedTitles_cons]
    refine (endsBy_topicRequests spreadsheet index topic before _).bind fun _ first hfirst => ?_
    rw [reports_append, listings_of_topicRequests hfirst]
    -- The topic counts as one of those before, if it has data.
    have hlater := ih (index + 1) (before ++ chartedTitles [topic])
    rw [List.append_assoc, List.length_append, Nat.add_right_comm] at hlater
    exact hlater.bind fun _ _ _ => endsBy_done _

/-- What fails while topics are written is told for its stage. -/
theorem endsBy_writeTopics {clients : Clients} (hslides : clients.slides.isSome)
    (hsheets : clients.sheets.isSome) (spreadsheet presentation : String) (topics : List Json) :
    (writeTopics clients spreadsheet presentation (.arr topics)).EndsBy Event.Fails
      (Reports (chartedTitles topics) 0) := by
  unfold writeTopics
  rw [if_neg (by simpa using Option.isSome_iff_ne_none.1 hslides),
    if_neg (by simpa using Option.isSome_iff_ne_none.1 hsheets)]
  -- No sheets are listed for the old slides, and once for the cleanup.
  refine (endsBy_deleteSlides _ presentation).bind fun _ first hdelete => ?_
  rw [reports_append, listings_eq_zero (keepsTo_deleteSlides presentation) (by simp) hdelete]
  refine (endsBy_cleanUp _ spreadsheet).bind fun _ second hclean => ?_
  rw [reports_append, Sheets.listings_of_cleanUp hclean]
  refine endsBy_ofExcept_bind fun listed hlisted => ?_
  obtain rfl := Except.ok.inj hlisted
  refine (endsBy_deckRequests spreadsheet 0 [] topics).bind fun requests third _ => ?_
  rw [reports_append]
  split
  · exact endsBy_done ()
  · -- The sheets were listed for the cleanup, so this change is not the removal.
    have hstage : ∀ requests, stage? (chartedTitles topics) (0 + 0 + 1 + listings third)
        (.slidesUpdate presentation requests) = some .writing :=
      fun requests => congrArg some (if_neg (by omega))
    exact (endsBy_update (hstage requests) fun cause => rfl).bind fun _ _ _ =>
      endsBy_of_keepsTo_nil (keepsTo_log _)

/-- Whatever goes wrong in a run ends it, with a fault that tells the stage and the cause. -/
theorem isReport_writeTopics {σ : Type} (answer : (action : Action) → σ → action.Answer × σ)
    (state : σ) {clients : Clients} (hslides : clients.slides.isSome)
    (hsheets : clients.sheets.isSome) (spreadsheet presentation : String) (topics : List Json)
    {before : List Event} {event : Event} {cause : Fault}
    (hplace : before ++ [event] <+:
      (writeTopics clients spreadsheet presentation (.arr topics)).events answer state)
    (hcause : event.cause? = some cause) :
    ∃ stage fault,
      event.call?.bind (stage? (chartedTitles topics) (listings (before ++ [event]))) =
        some stage ∧
      ((writeTopics clients spreadsheet presentation (.arr topics)).run answer state).1 =
        .error fault ∧
      stage.IsReport cause fault := by
  obtain ⟨fault, houtcome, cause', stage, hcause', hstage, rfl⟩ :=
    endsBy_writeTopics hslides hsheets spreadsheet presentation topics
      (course_events answer _ state) hplace ⟨cause, hcause⟩
  obtain rfl := Option.some.inj (hcause'.symm.trans hcause)
  rw [Nat.zero_add] at hstage
  exact ⟨stage, _, hstage, houtcome, stage.isReport_fault cause'⟩

/-- An outside where all replies of the services are empty objects, but for the listing of the old
slides. -/
def replyEmpty (slides : Except Fault Json) : (action : Action) → Unit → action.Answer × Unit :=
  answerCalls fun
    | .slidesGet _, _ => (slides, ())
    | request, _ => (request.quietReply, ())

/-- A run on one topic with data. -/
def carsRun : Program Unit :=
  writeTopics ⟨some ⟨"login"⟩, some ⟨"login"⟩⟩ "book" "deck" (.arr [.obj [("topic", .str "Cars"),
    ("dataset", .obj [("points", .arr [.obj [("label", .str "a"), ("value", .int 1)]])])]])

/-- The reply to the addition of the topic's sheet does not name the sheet. -/
theorem isReport_of_malformedReply :
    ∃ before event fault, before ++ [event] <+: carsRun.events (replyEmpty (.ok (.obj []))) () ∧
      event.cause? = some (.noSheetReply (Sheets.tableTitle 1)) ∧
      (carsRun.run (replyEmpty (.ok (.obj []))) ()).1 = .error fault ∧ fault.kind = .runtime ∧
      fault.message =
        "create sheets chart for topic 'Cars': missing add sheet reply for 'Data_1'" := by
  have hevents : ∃ before, carsRun.events (replyEmpty (.ok (.obj []))) () = before ++
      [⟨.call (.sheetsUpdate "book" [.addSheet (Sheets.tableTitle 1)]), .ok (.obj [])⟩] ∧
      listings before = 2 := ⟨[_, _, _, _], rfl, rfl⟩
  obtain ⟨before, hevents, hlisted⟩ := hevents
  have hplace : before ++ [_] <+: carsRun.events (replyEmpty (.ok (.obj []))) () :=
    ⟨[], by rw [List.append_nil, hevents]⟩
  obtain ⟨stage, fault, hstage, houtcome, hreport⟩ :=
    isReport_writeTopics (replyEmpty (.ok (.obj []))) () rfl rfl "book" "deck" _ hplace rfl
  rw [listings_append, hlisted] at hstage
  obtain rfl := Option.some.inj hstage
  exact ⟨before, _, fault, hplace, rfl, houtcome, hreport.1,
    hreport.2.trans (by decide +kernel)⟩

/-- A failure to list the old slides is passed on, so not every failure is one of a step. -/
theorem not_runtime_of_refusedListing :
    ¬ ∀ (answer : (action : Action) → Unit → action.Answer × Unit) state (clients : Clients)
      spreadsheet presentation (topics : List Json) before (event : Event) cause,
      clients.slides.isSome → clients.sheets.isSome →
      before ++ [event] <+:
        (writeTopics clients spreadsheet presentation (.arr topics)).events answer state →
      event.cause? = some cause →
      ∃ fault, ((writeTopics clients spreadsheet presentation (.arr topics)).run answer state).1 =
        .error fault ∧ fault.kind = .runtime := by
  intro h
  obtain ⟨fault, houtcome, hkind⟩ := h
    (replyEmpty (.error (.reported .connection "connection aborted"))) ()
    ⟨some ⟨"login"⟩, some ⟨"login"⟩⟩ "book" "deck" [] [] ⟨.call (.slidesGet "deck"), _⟩ _
    rfl rfl List.prefix_rfl rfl
  cases houtcome
  cases hkind

end Slides

end DeckPlan
