import DeckPlan.Proofs.Slides.Topic
import DeckPlan.Slides.Deck

/-!
# The calls that write a presentation

A `Script` holds what the outside answers while a presentation is written. It tells the whole order
of the calls (`Script.order`): the old slides are listed and removed, the spreadsheet is cleaned up,
the charts of the topics are drawn one topic after the other, and all new slides are written at the
end. `follows_writeTopics` says that `writeTopics` follows the order of some script.
-/

namespace DeckPlan.Slides

/-! ## The removal of the old slides -/

/-- The identifiers of the slides of a presentation; entries without one are skipped. -/
def listedSlides (listing : Json) : List Json :=
  ((listing.entries "slides").map fun slide => (slide.field? "objectId").getD .null).filter
    Json.isGiven

/-- The calls that remove the old slides. Nothing is changed if no slide is listed. -/
def removalSteps (presentation : String) (listing reply : Json) : List Step :=
  { call := .slidesGet presentation
    accepts := fun listing => ∃ slides, readSlides listing = .ok slides
    reply := listing } ::
    if (listedSlides listing).isEmpty then []
    else
      [{ call := .slidesUpdate presentation ((listedSlides listing).map .deleteObject)
         accepts := fun _ => True
         reply }]

theorem slideNames_eq_ok {slides names : List Json} (h : slideNames slides = .ok names) :
    ∃ parts, (slides.filter Json.isGiven).mapM (fun slide => slide.field "objectId" .null) =
      .ok parts ∧ names = parts.filter Json.isGiven := by
  induction slides generalizing names with
  | nil =>
    cases h
    exact ⟨[], rfl, rfl⟩
  | cons slide rest ih =>
    rw [slideNames] at h
    split at h
    -- An entry that is not given is passed over by both sides.
    · next hgiven =>
      obtain ⟨name, hname, hrest⟩ := bind_eq_ok.1 h
      obtain ⟨later, hlater, hnames⟩ := bind_eq_ok.1 hrest
      obtain ⟨parts, hparts, rfl⟩ := ih hlater
      cases hnames
      refine ⟨name :: parts, ?_, (List.filter_cons ..).symm⟩
      rw [List.filter_cons_of_pos hgiven, List.mapM_cons, hname, hparts]
      rfl
    · next hgiven =>
      rw [List.filter_cons_of_neg hgiven]
      exact ih h

/-- The slides that are read of a presentation are those that it lists. -/
theorem eq_listedSlides {listing : Json} {names : List Json}
    (h : readSlides listing = .ok names) : names = listedSlides listing := by
  obtain ⟨found, hfound, hread⟩ := bind_eq_ok.1 h
  obtain ⟨items, hitems, hnames⟩ := bind_eq_ok.1 hread
  obtain ⟨parts, hparts, rfl⟩ := slideNames_eq_ok hnames
  rw [listedSlides, Json.eq_map_entries hfound hitems hparts]

/-- A change that is not made ends the program. -/
theorem dialogue_update {presentation : String} {requests : List Request} {step : Fault → Fault}
    {exchanges : List Exchange} {outcome : Except Fault Unit} :
    (update presentation requests step).Dialogue exchanges outcome ↔
      (∃ fault, exchanges = [⟨.slidesUpdate presentation requests, .error fault⟩] ∧
        outcome = .error (step fault)) ∨
      ∃ reply : Json, exchanges = [⟨.slidesUpdate presentation requests, .ok reply⟩] ∧
        outcome = .ok () := by
  constructor
  · intro h
    obtain ⟨reply, rest, rfl, hend⟩ := Program.dialogue_attempt_call_bind.1 h
    cases reply with
    | ok reply =>
      obtain ⟨rfl, rfl⟩ := hend
      exact .inr ⟨reply, rfl, rfl⟩
    | error fault =>
      obtain ⟨rfl, rfl⟩ := hend
      exact .inl ⟨fault, rfl, rfl⟩
  · rintro (⟨fault, rfl, rfl⟩ | ⟨reply, rfl, rfl⟩)
    · exact Program.dialogue_attempt_call_bind.2 ⟨.error fault, [], rfl, rfl, rfl⟩
    · exact Program.dialogue_attempt_call_bind.2 ⟨.ok reply, [], rfl, rfl, rfl⟩

/-- A change that is made and then logged is one step. -/
theorem follows_update {presentation line : String} {requests : List Request}
    {step : Fault → Fault} {exchanges : List Exchange} {outcome : Except Fault Unit}
    (h : ((update presentation requests step).bind fun _ => Program.log line).Dialogue exchanges
      outcome) :
    ∃ reply, Follows True [⟨.slidesUpdate presentation requests, fun _ => True, reply⟩] exchanges
      outcome := by
  rcases Program.trace_bind.1 h with
    ⟨fault, hupdate, rfl⟩ | ⟨⟨⟩, first, second, rfl, hupdate, hend⟩
  · rcases dialogue_update.1 hupdate with ⟨fault, rfl, -⟩ | ⟨reply, rfl, hok⟩
    · exact ⟨.null, .refused _ (Step.refuses_error _)⟩
    · cases hok
  · rcases dialogue_update.1 hupdate with ⟨fault, rfl, herror⟩ | ⟨reply, rfl, -⟩
    · cases herror
    · obtain ⟨rfl, rfl⟩ := Program.dialogue_log.1 hend
      exact ⟨reply, .accepted trivial (.complete ())⟩

/-- Whoever removes the old slides follows the order. -/
theorem follows_deleteSlides {presentation : String} {exchanges : List Exchange}
    {outcome : Except Fault Unit} (h : (deleteSlides presentation).Dialogue exchanges outcome) :
    ∃ listing reply,
      Follows True (removalSteps presentation listing reply) exchanges outcome := by
  rcases Program.dialogue_call_bind.1 h with ⟨fault, rfl, rfl⟩ | ⟨listing, rest, rfl, hread⟩
  · exact ⟨.null, .null, .refused _ (Step.refuses_error _)⟩
  rcases Program.trace_ofExcept_bind.1 hread with
    ⟨fault, hslides, rfl, rfl⟩ | ⟨slides, hslides, hremove⟩
  · exact ⟨listing, .null, .refused _ (Step.refuses_ok (by simp [hslides]))⟩
  -- The listing is accepted as soon as it can be read, whatever it lists.
  have haccepted : ∃ slides, readSlides listing = .ok slides := ⟨slides, hslides⟩
  obtain rfl := eq_listedSlides hslides
  split at hremove
  · next hempty =>
    obtain ⟨rfl, rfl⟩ := hremove
    refine ⟨listing, .null, .accepted haccepted ?_⟩
    rw [if_pos hempty]
    exact .complete ()
  · next hempty =>
    obtain ⟨reply, hupdate⟩ := follows_update hremove
    refine ⟨listing, reply, .accepted haccepted ?_⟩
    rw [if_neg hempty]
    exact hupdate

/-! ## The charts of all topics -/

/-- The calls for topics, the first of which has the number `index`. -/
def deckSteps (spreadsheet : String) (index : Nat) (drafts : List Draft) : List Step :=
  (drafts.zipIdx index).flatMap fun (draft, index) => draft.steps spreadsheet index

/-- The requests for the slides of topics, the first of which has the number `index`. -/
def deckSlides (spreadsheet : String) (index : Nat) (drafts : List Draft) : List Request :=
  (drafts.zipIdx index).flatMap fun (draft, index) => draft.slides spreadsheet index

/-- Whoever prepares the slides of topics follows the order of their drafts. -/
theorem follows_deckRequests {spreadsheet : String} {index : Nat} {topics : List Json}
    {exchanges : List Exchange} {outcome : Except Fault (List Request)}
    (h : (deckRequests spreadsheet index topics).Dialogue exchanges outcome) :
    ∃ drafts : List Draft, drafts.map Draft.topic = topics ∧
      Follows (∀ topic ∈ topics, IsWritable spreadsheet topic)
        (deckSteps spreadsheet index drafts) exchanges outcome ∧
      ∀ requests, outcome = .ok requests →
        requests = deckSlides spreadsheet index drafts ∧
          ∀ topic ∈ topics, ∃ content, TopicContent.of topic = .ok content := by
  induction topics generalizing index exchanges outcome with
  | nil =>
    obtain ⟨rfl, rfl⟩ := h
    refine ⟨[], rfl, .complete _, fun requests heq => ?_⟩
    cases heq
    exact ⟨rfl, fun _ hmem => nomatch hmem⟩
  | cons topic rest ih =>
    rcases Program.trace_bind.1 h with
      ⟨fault, hfirst, rfl⟩ | ⟨firstSlides, first, later, rfl, hfirst, hlater⟩
    · obtain ⟨draft, rfl, hfollows, -⟩ := follows_topicRequests hfirst
      -- The other topics are not looked at any more.
      refine ⟨draft :: rest.map .unprepared, ?_, ?_, fun _ h => nomatch h⟩
      · rw [List.map_cons, Draft.map_topic_unprepared]
      · exact hfollows.ended (fun hall => hall _ List.mem_cons_self) _
    · obtain ⟨draft, rfl, hfollows, hslides⟩ := follows_topicRequests hfirst
      obtain ⟨rfl, hcontent⟩ := hslides firstSlides rfl
      rcases Program.trace_bind.1 hlater with
        ⟨fault, hrest, rfl⟩ | ⟨restSlides, second, last, rfl, hrest, hend⟩
      · obtain ⟨drafts, rfl, hdrafts, -⟩ := ih hrest
        refine ⟨draft :: drafts, rfl, hfollows.append (hdrafts.congr ?_ rfl), fun _ h => nomatch h⟩
        exact fun hall topic hmem => hall topic (List.mem_cons_of_mem _ hmem)
      · obtain ⟨drafts, rfl, hdrafts, hlast⟩ := ih hrest
        obtain ⟨rfl, hcontents⟩ := hlast restSlides rfl
        obtain ⟨rfl, rfl⟩ := hend
        refine ⟨draft :: drafts, rfl, hfollows.append ?_, fun requests heq => ?_⟩
        · rw [List.append_nil]
          refine hdrafts.congr ?_ rfl
          exact fun hall topic hmem => hall topic (List.mem_cons_of_mem _ hmem)
        · cases heq
          exact ⟨rfl, List.forall_mem_cons.2 ⟨hcontent, hcontents⟩⟩

/-! ## The whole order -/

/-- What the outside answers while a presentation is written. -/
structure Script where
  /-- The listing of the old slides. -/
  slides : Json
  /-- The reply to their removal. -/
  removed : Json
  /-- The listing of the sheets. -/
  sheets : Json
  /-- The reply to the cleanup. -/
  cleaned : Json
  drafts : List Draft
  /-- The reply to the new slides. -/
  written : Json
  deriving Inhabited

namespace Script

/-- The requests for all new slides. -/
def requests (spreadsheet : String) (script : Script) : List Request :=
  deckSlides spreadsheet 0 script.drafts

/-- The calls before the new slides are written. -/
def preparation (spreadsheet presentation : String) (script : Script) : List Step :=
  removalSteps presentation script.slides script.removed ++
    (Sheets.cleanupSteps spreadsheet script.sheets script.cleaned ++
      deckSteps spreadsheet 0 script.drafts)

/-- The call that writes the new slides. There is none if there are no topics. -/
def creation (spreadsheet presentation : String) (script : Script) : List Step :=
  if script.drafts.isEmpty then []
  else
    [{ call := .slidesUpdate presentation (script.requests spreadsheet)
       accepts := fun _ => True
       reply := script.written }]

/-- All calls. -/
def order (spreadsheet presentation : String) (script : Script) : List Step :=
  script.preparation spreadsheet presentation ++ script.creation spreadsheet presentation

theorem order_eq (spreadsheet presentation : String) (script : Script) :
    script.order spreadsheet presentation =
      removalSteps presentation script.slides script.removed ++
        (Sheets.cleanupSteps spreadsheet script.sheets script.cleaned ++
          (deckSteps spreadsheet 0 script.drafts ++
            script.creation spreadsheet presentation)) := by
  rw [order, preparation, List.append_assoc, List.append_assoc]

end Script

/-- What is given can be written: both clients are there, and slides can be made of all topics. -/
structure IsUsable (clients : Clients) (spreadsheet : String) (topics : List Json) : Prop where
  slides : clients.slides.isSome
  sheets : clients.sheets.isSome
  topics : ∀ topic ∈ topics, IsWritable spreadsheet topic

/-- Whether a call adds slides. -/
def addsSlides : Call → Bool
  | .slidesUpdate _ requests => requests.any Request.addsSlide
  | _ => false

theorem not_addsSlides_of_mem_removalSteps {presentation : String} {listing reply : Json}
    {step : Step} (h : step ∈ removalSteps presentation listing reply) :
    addsSlides step.call = false := by
  rw [removalSteps] at h
  rcases List.mem_cons.1 h with rfl | h
  · rfl
  · split at h
    · cases h
    · obtain rfl := List.mem_singleton.1 h
      simp [addsSlides, Request.addsSlide]

/-- No call to a spreadsheet adds slides. -/
theorem not_addsSlides_of_spreadsheet? {call : Call} {spreadsheet : String}
    (h : Sheets.spreadsheet? call = some spreadsheet) : addsSlides call = false := by
  cases call with
  | slidesUpdate => cases h
  | _ => rfl

/-- The steps for the charts of all topics are for the spreadsheet. -/
theorem spreadsheet?_of_mem_deckSteps {spreadsheet : String} {index : Nat}
    {drafts : List Draft} {step : Step} (h : step ∈ deckSteps spreadsheet index drafts) :
    Sheets.spreadsheet? step.call = some spreadsheet := by
  obtain ⟨⟨draft, index⟩, -, hstep⟩ := List.mem_flatMap.1 h
  simp only [Draft.steps] at hstep
  split at hstep
  · exact Sheets.spreadsheet?_of_mem_chartSteps hstep
  · cases hstep

/-- After the removal, all calls are about the spreadsheet until the new slides are written. -/
theorem mem_preparation_cases {spreadsheet presentation : String} {script : Script}
    {step : Step} (h : step ∈ script.preparation spreadsheet presentation) :
    step ∈ removalSteps presentation script.slides script.removed ∨
      Sheets.spreadsheet? step.call = some spreadsheet := by
  rcases List.mem_append.1 h with h | h
  · exact .inl h
  · rcases List.mem_append.1 h with h | h
    · exact .inr (Sheets.spreadsheet?_of_mem_cleanupSteps h)
    · exact .inr (spreadsheet?_of_mem_deckSteps h)

/-- No slides are added before all charts are drawn. -/
theorem not_addsSlides_of_mem_preparation {spreadsheet presentation : String} {script : Script}
    {step : Step} (h : step ∈ script.preparation spreadsheet presentation) :
    addsSlides step.call = false := by
  rcases mem_preparation_cases h with h | h
  · exact not_addsSlides_of_mem_removalSteps h
  · exact not_addsSlides_of_spreadsheet? h

/-- Topics that can be read give slides. -/
theorem deckSlides_ne_nil {spreadsheet : String} {index : Nat} {drafts : List Draft}
    (hne : drafts ≠ [])
    (h : ∀ topic ∈ drafts.map Draft.topic, ∃ content, TopicContent.of topic = .ok content) :
    deckSlides spreadsheet index drafts ≠ [] := by
  cases drafts with
  | nil => exact absurd rfl hne
  | cons draft rest =>
    intro hnil
    exact Draft.slides_ne_nil (h _ List.mem_cons_self) (List.append_eq_nil_iff.1 hnil).1

/-- Whoever writes the new slides follows the order; there is nothing to write without topics. -/
theorem follows_creation {spreadsheet presentation line : String} (script : Script)
    {step : Fault → Fault} {exchanges : List Exchange} {outcome : Except Fault Unit}
    (hcontents : ∀ topic ∈ script.drafts.map Draft.topic,
      ∃ content, TopicContent.of topic = .ok content)
    (h : (if (script.requests spreadsheet).isEmpty then Program.done ()
      else (update presentation (script.requests spreadsheet) step).bind fun _ =>
        Program.log line).Dialogue exchanges outcome) :
    ∃ written, Follows True ({ script with written }.creation spreadsheet presentation) exchanges
      outcome := by
  split at h
  · next hempty =>
    obtain ⟨rfl, rfl⟩ := h
    -- Each topic gives slides, so an empty batch is one of no topics.
    have hnil : script.drafts = [] := by
      by_contra hne
      exact deckSlides_ne_nil hne hcontents (List.isEmpty_iff.1 hempty)
    refine ⟨.null, ?_⟩
    rw [Script.creation, hnil]
    exact .complete ()
  · next hsome =>
    have hne : script.drafts.isEmpty = false := by
      rw [List.isEmpty_eq_false_iff]
      intro hnil
      rw [Script.requests, hnil] at hsome
      exact hsome rfl
    obtain ⟨written, hupdate⟩ := follows_update h
    refine ⟨written, ?_⟩
    rw [Script.creation, hne]
    exact hupdate

/-- Either a presentation is not written, and then the order of the calls before is followed, or
all these calls go through and the new slides are written. -/
theorem unprepared_or_prepared {clients : Clients} {spreadsheet presentation : String}
    {topics : List Json} {exchanges : List Exchange} {outcome : Except Fault Unit}
    (h : (writeTopics clients spreadsheet presentation (.arr topics)).Dialogue exchanges outcome) :
    ∃ script : Script, script.drafts.map Draft.topic = topics ∧
      ((∃ fault, outcome = .error fault ∧
          Follows (IsUsable clients spreadsheet topics)
            (script.preparation spreadsheet presentation) exchanges outcome) ∨
        (∀ topic ∈ topics, ∃ content, TopicContent.of topic = .ok content) ∧
          ∃ first second, exchanges = first ++ second ∧
            Follows True (script.preparation spreadsheet presentation) first
              (.ok () : Except Fault Unit) ∧
            Follows True (script.creation spreadsheet presentation) second outcome) := by
  have hfresh := Draft.map_topic_unprepared topics
  rw [writeTopics] at h
  split at h
  · next hnone =>
    obtain ⟨rfl, rfl⟩ := h
    refine ⟨{ (default : Script) with drafts := topics.map .unprepared }, hfresh,
      .inl ⟨_, rfl, .unusable _ fun husable => ?_⟩⟩
    have hsome := husable.slides
    rw [Option.isNone_iff_eq_none.1 hnone] at hsome
    cases hsome
  split at h
  · next hnone =>
    obtain ⟨rfl, rfl⟩ := h
    refine ⟨{ (default : Script) with drafts := topics.map .unprepared }, hfresh,
      .inl ⟨_, rfl, .unusable _ fun husable => ?_⟩⟩
    have hsome := husable.sheets
    rw [Option.isNone_iff_eq_none.1 hnone] at hsome
    cases hsome
  rcases Program.trace_bind.1 h with
    ⟨fault, hremove, rfl⟩ | ⟨⟨⟩, removal, rest, rfl, hremove, hafter⟩
  · obtain ⟨slides, removed, hremoval⟩ := follows_deleteSlides hremove
    exact ⟨{ (default : Script) with slides, removed, drafts := topics.map .unprepared }, hfresh,
      .inl ⟨fault, rfl, hremoval.ended (fun _ => trivial) _⟩⟩
  obtain ⟨slides, removed, hremoval⟩ := follows_deleteSlides hremove
  rcases Program.trace_bind.1 hafter with
    ⟨fault, hclean, rfl⟩ | ⟨⟨⟩, cleanup, rest, rfl, hclean, htopics⟩
  · obtain ⟨sheets, cleaned, hcleanup⟩ := Sheets.follows_cleanUp hclean
    exact ⟨{ (default : Script) with
        slides, removed, sheets, cleaned, drafts := topics.map .unprepared }, hfresh,
      .inl ⟨fault, rfl, hremoval.append (hcleanup.ended (fun _ => trivial) _)⟩⟩
  obtain ⟨sheets, cleaned, hcleanup⟩ := Sheets.follows_cleanUp hclean
  rcases Program.trace_ofExcept_bind.1 htopics with ⟨fault, hitems, -⟩ | ⟨items, hitems, hdecks⟩
  · cases hitems
  obtain rfl := Except.ok.inj hitems
  rcases Program.trace_bind.1 hdecks with
    ⟨fault, hdeck, rfl⟩ | ⟨requests, charting, last, rfl, hdeck, hcreate⟩
  · obtain ⟨drafts, rfl, hcharting, -⟩ := follows_deckRequests hdeck
    exact ⟨{ (default : Script) with slides, removed, sheets, cleaned, drafts }, rfl,
      .inl ⟨fault, rfl, hremoval.append (hcleanup.append (hcharting.congr (·.topics) rfl))⟩⟩
  obtain ⟨drafts, rfl, hcharting, hrequests⟩ := follows_deckRequests hdeck
  obtain ⟨rfl, hcontents⟩ := hrequests requests rfl
  -- All that is left is to write the slides, if there are any.
  obtain ⟨written, hcreation⟩ := follows_creation
    { (default : Script) with slides, removed, sheets, cleaned, drafts } hcontents hcreate
  refine ⟨{ slides, removed, sheets, cleaned, drafts, written }, rfl,
    .inr ⟨hcontents, removal ++ (cleanup ++ charting), last, ?_, ?_, hcreation⟩⟩
  · rw [List.append_assoc, List.append_assoc]
  · exact hremoval.append (hcleanup.append (hcharting.of_ok ()))

/-- A script that `unprepared_or_prepared` tells of has the whole order of the dialogue. -/
theorem follows_order {usable : Prop} {spreadsheet presentation : String} {script : Script}
    {exchanges : List Exchange} {outcome : Except Fault Unit} {readable : Prop}
    (h : (∃ fault, outcome = .error fault ∧
        Follows usable (script.preparation spreadsheet presentation) exchanges outcome) ∨
      readable ∧ ∃ first second, exchanges = first ++ second ∧
        Follows True (script.preparation spreadsheet presentation) first
          (.ok () : Except Fault Unit) ∧
        Follows True (script.creation spreadsheet presentation) second outcome) :
    Follows usable (script.order spreadsheet presentation) exchanges outcome := by
  rcases h with ⟨fault, rfl, hfollows⟩ | ⟨-, first, second, rfl, hprepared, hcreation⟩
  · exact hfollows.ended id _
  · exact hprepared.append (hcreation.congr (fun _ => trivial) rfl)

/-- Whoever writes a presentation follows the order of a script. -/
theorem follows_writeTopics {clients : Clients} {spreadsheet presentation : String}
    {topics : List Json} {exchanges : List Exchange} {outcome : Except Fault Unit}
    (h : (writeTopics clients spreadsheet presentation (.arr topics)).Dialogue exchanges outcome) :
    ∃ script : Script, script.drafts.map Draft.topic = topics ∧
      Follows (IsUsable clients spreadsheet topics) (script.order spreadsheet presentation)
        exchanges outcome := by
  obtain ⟨script, htopics, hcases⟩ := unprepared_or_prepared h
  exact ⟨script, htopics, follows_order hcases⟩

/-! ## What every run does -/

/-- The call adds the new slides: all calls before it went through, so all charts were drawn, and
its requests make two slides of every topic and a third one with the chart drawn for the topic. -/
structure IsCreation (spreadsheet presentation : String) (script : Script)
    (exchanges : List Exchange) (exchange : Exchange) : Prop where
  call_eq : exchange.call = .slidesUpdate presentation (script.requests spreadsheet)
  last : exchanges =
    (script.preparation spreadsheet presentation).map Step.exchange ++ [exchange]
  accepted : ∀ step ∈ script.preparation spreadsheet presentation, step.Accepted
  readable : ∀ draft ∈ script.drafts, ∃ content, TopicContent.of draft.topic = .ok content
  slides : (script.requests spreadsheet).countP Request.addsSlide =
    2 * script.drafts.length + (script.drafts.filterMap (chartData? ·.topic)).length
  /-- The chart of a topic is the one that the sheets service named when it was drawn. -/
  charts : ∀ index draft dataset, script.drafts[index]? = some draft →
    chartData? draft.topic = some dataset →
      ∃ chart, Sheets.addedChart? draft.replies.charted = some chart ∧
        (Sheets.chartSteps spreadsheet (tabTitle index) dataset draft.replies).map Step.exchange
          <:+: exchanges ∧
        draft.slides spreadsheet index <:+: script.requests spreadsheet ∧
        (draft.slides spreadsheet index).filterMap Request.chart? = [chart]

/-- The calls of a run, with their replies, are those of a script in order. -/
structure IsOrderly (clients : Clients) (spreadsheet presentation : String) (script : Script)
    (exchanges : List Exchange) (outcome : Except Fault Unit) : Prop where
  calls_prefix : exchanges.map Exchange.call <+:
    (script.order spreadsheet presentation).map Step.call
  /-- A run that is complete makes all calls. -/
  complete : outcome = .ok () →
    exchanges = (script.order spreadsheet presentation).map Step.exchange
  /-- A call that fails or whose reply is not accepted is the last one. -/
  accepted : ∃ front, front <+: script.order spreadsheet presentation ∧
    (∀ step ∈ front, step.Accepted) ∧ exchanges.dropLast = front.map Step.exchange
  /-- Only such a call and unusable topics keep a run from being complete. -/
  refused : ∀ fault, outcome = .error fault →
    IsUsable clients spreadsheet (script.drafts.map Draft.topic) →
      ∃ step ∈ script.order spreadsheet presentation,
        ∃ last, exchanges.getLast? = some last ∧ step.Refuses last
  /-- Slides are added by one call at most. -/
  once : exchanges.countP (fun exchange => addsSlides exchange.call) ≤ 1
  creation : ∀ exchange ∈ exchanges, addsSlides exchange.call = true →
    IsCreation spreadsheet presentation script exchanges exchange

/-- Whoever follows the preparation adds no slides. -/
theorem not_addsSlides_of_follows {usable : Prop} {spreadsheet presentation : String}
    {script : Script} {exchanges : List Exchange} {outcome : Except Fault Unit}
    (h : Follows usable (script.preparation spreadsheet presentation) exchanges outcome) :
    ∀ exchange ∈ exchanges, addsSlides exchange.call = false := by
  intro exchange hmem
  have hcall := h.calls_prefix.subset (List.mem_map_of_mem hmem)
  obtain ⟨step, hstep, heq⟩ := List.mem_map.1 hcall
  rw [← heq]
  exact not_addsSlides_of_mem_preparation hstep

/-- The new slides are written by one call. -/
theorem eq_singleton_of_mem_creation {usable : Prop} {spreadsheet presentation : String}
    {script : Script} {exchanges : List Exchange} {outcome : Except Fault Unit}
    (h : Follows usable (script.creation spreadsheet presentation) exchanges outcome)
    {exchange : Exchange} (hmem : exchange ∈ exchanges) :
    exchanges = [exchange] ∧
      exchange.call = .slidesUpdate presentation (script.requests spreadsheet) := by
  have hcalls := h.calls_prefix
  rw [Script.creation] at hcalls
  split at hcalls
  · rw [List.map_nil, List.prefix_nil, List.map_eq_nil_iff] at hcalls
    rw [hcalls] at hmem
    cases hmem
  · cases exchanges with
    | nil => cases hmem
    | cons only rest =>
      obtain ⟨hcall, hrest⟩ := List.cons_prefix_cons.1 hcalls
      obtain rfl := List.map_eq_nil_iff.1 (List.prefix_nil.1 hrest)
      obtain rfl := List.mem_singleton.1 hmem
      exact ⟨rfl, hcall⟩

/-- There are two slides for each topic and one more for each chart. -/
theorem countP_addsSlide_deckSlides {spreadsheet : String} {index : Nat} {drafts : List Draft}
    (h : ∀ draft ∈ drafts, ∃ content, TopicContent.of draft.topic = .ok content) :
    (deckSlides spreadsheet index drafts).countP Request.addsSlide =
      2 * drafts.length + (drafts.filterMap (chartData? ·.topic)).length := by
  induction drafts generalizing index with
  | nil => rfl
  | cons draft rest ih =>
    obtain ⟨hfirst, hrest⟩ := List.forall_mem_cons.1 h
    rw [deckSlides, List.zipIdx_cons, List.flatMap_cons, List.countP_append,
      Draft.countP_addsSlide_slides hfirst, ← deckSlides, ih hrest, List.filterMap_cons]
    cases chartData? draft.topic <;> simp <;> omega

/-- After all calls of the preparation, the slides are those of the script. -/
theorem isCreation_of_prepared {spreadsheet presentation : String} {script : Script}
    {first second : List Exchange} {outcome : Except Fault Unit} {exchange : Exchange}
    (hreadable : ∀ draft ∈ script.drafts, ∃ content, TopicContent.of draft.topic = .ok content)
    (hprepared : Follows True (script.preparation spreadsheet presentation) first
      (.ok () : Except Fault Unit))
    (hcreation : Follows True (script.creation spreadsheet presentation) second outcome)
    (hmem : exchange ∈ second) :
    IsCreation spreadsheet presentation script (first ++ second) exchange := by
  obtain ⟨rfl, hcall⟩ := eq_singleton_of_mem_creation hcreation hmem
  have hfirst := hprepared.eq_of_ok
  have haccepted := hprepared.accepted_of_ok
  refine ⟨hcall, by rw [hfirst], haccepted, hreadable, countP_addsSlide_deckSlides hreadable, ?_⟩
  intro index draft dataset hdraft hdataset
  -- The steps of the draft stand together in the preparation, and its slides in the batch.
  have hindexed : (draft, index) ∈ script.drafts.zipIdx :=
    List.mk_mem_zipIdx_iff_getElem?.2 hdraft
  have hsteps : draft.steps spreadsheet index <:+: deckSteps spreadsheet 0 script.drafts :=
    List.infix_of_mem_flatten (List.mem_map.2 ⟨_, hindexed, rfl⟩)
  have hslides : draft.slides spreadsheet index <:+: script.requests spreadsheet :=
    List.infix_of_mem_flatten (List.mem_map.2 ⟨_, hindexed, rfl⟩)
  have hprepares : draft.steps spreadsheet index <:+:
      script.preparation spreadsheet presentation :=
    hsteps.trans ((List.suffix_append _ _).trans (List.suffix_append _ _)).isInfix
  have hdone : (draft.steps spreadsheet index).map Step.exchange <:+: first ++ [exchange] := by
    rw [hfirst]
    exact (hprepares.map _).trans (List.prefix_append _ _).isInfix
  have hchart : (draft.slides spreadsheet index).filterMap Request.chart? = _ :=
    Draft.filterMap_chart?_slides (hreadable draft (List.mem_of_getElem? hdraft))
  rw [hdataset] at hchart
  rw [Draft.steps, hdataset] at hprepares hdone
  -- All steps were accepted, so the reply to the last one has the identifier of the chart.
  obtain ⟨chart, hadded⟩ := Option.isSome_iff_exists.1
    (Sheets.isSome_addedChart?_of_accepted fun step hstep =>
      haccepted step (hprepares.subset hstep))
  refine ⟨chart, hadded, hdone, hslides, ?_⟩
  rw [hchart, Draft.chart, hadded]
  rfl

/-- Every run makes its calls in order, whatever the outside answers. -/
theorem isOrderly_writeTopics {σ : Type} (answer : (action : Action) → σ → action.Answer × σ)
    (state : σ) (clients : Clients) (spreadsheet presentation : String) (topics : List Json) :
    ∃ script : Script, script.drafts.map Draft.topic = topics ∧
      IsOrderly clients spreadsheet presentation script
        ((writeTopics clients spreadsheet presentation (.arr topics)).transcript answer state)
        ((writeTopics clients spreadsheet presentation (.arr topics)).run answer state).1 := by
  obtain ⟨script, htopics, hcases⟩ := unprepared_or_prepared
    (Program.dialogue_transcript answer
      (writeTopics clients spreadsheet presentation (.arr topics)) state)
  have hfollows := follows_order hcases
  refine ⟨script, htopics, hfollows.calls_prefix, fun hok => ?_, hfollows.accepted_of_dropLast,
    fun fault herror husable => ?_, ?_, ?_⟩
  · exact (hok ▸ hfollows).eq_of_ok
  · exact (herror ▸ hfollows).refused_of_error (htopics ▸ husable)
  -- Slides are added by the batch at the end only, if the preparation gets there.
  · rcases hcases with ⟨fault, -, hprepared⟩ | ⟨-, first, second, heq, hprepared, hcreation⟩
    · rw [List.countP_eq_zero.2 fun exchange hmem => by
        simp [not_addsSlides_of_follows hprepared exchange hmem]]
      exact Nat.zero_le 1
    · rw [heq, List.countP_append, List.countP_eq_zero.2 fun exchange hmem => by
        simp [not_addsSlides_of_follows hprepared exchange hmem], Nat.zero_add]
      refine Nat.le_trans List.countP_le_length ?_
      cases second with
      | nil => exact Nat.zero_le 1
      | cons exchange rest =>
        rw [(eq_singleton_of_mem_creation hcreation List.mem_cons_self).1]
        exact Nat.le_refl 1
  · intro exchange hmem hadds
    rcases hcases with ⟨fault, -, hprepared⟩ |
      ⟨hreadable, first, second, heq, hprepared, hcreation⟩
    · rw [not_addsSlides_of_follows hprepared exchange hmem] at hadds
      cases hadds
    · rw [heq] at hmem ⊢
      rcases List.mem_append.1 hmem with hmem | hmem
      · rw [not_addsSlides_of_follows hprepared exchange hmem] at hadds
        cases hadds
      · refine isCreation_of_prepared (fun draft hdraft => ?_) hprepared hcreation hmem
        exact hreadable _ (htopics ▸ List.mem_map_of_mem hdraft)

end DeckPlan.Slides
