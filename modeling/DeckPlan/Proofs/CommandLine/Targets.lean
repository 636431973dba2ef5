import DeckPlan.Proofs.CommandLine.Lookup
import DeckPlan.Proofs.CommandLine.Stages

/-!
# What a run touches

A run touches only the documents that its options name, and only after the topics were printed and
both clients were built. The web is asked for images before that, topic by topic
(`StaysOnTarget`, `staysOnTarget_run`).

The events of a run that writes a presentation come in four parts (`DeckParts`): the questions to
models with the printed topics, the authorization, the images, and the documents.
-/

namespace DeckPlan

open Program

/-- A spreadsheet or a presentation is asked for or changed. -/
def Call.IsDocument (request : Call) : Prop :=
  ∃ document, request.party = .sheets document ∨ request.party = .slides document

/-- Whether the web is asked. -/
def Call.isWeb (request : Call) : Bool :=
  request.party = .web

namespace CommandLine

variable {env : Environment} {options : Options} {events : List Event}

/-! ## The calls for images -/

/-- The calls for the image of a topic: a search and then a check, each at most once. -/
inductive IsLookup (parameters : List (String × String)) : List Call → Prop
  | unasked : IsLookup parameters []
  | searched : IsLookup parameters [Image.searchCall parameters]
  | checked (link : String) :
      IsLookup parameters [Image.searchCall parameters, .webHead link Image.headTimeout]

/-- Whoever looks up an image makes these calls. -/
theorem ImageCourse.isLookup {access : Image.SearchAccess} {parameters : List (String × String)}
    {query : String} {fallback : Json} {outcome : Except Fault Json}
    (h : ImageCourse access parameters query fallback events outcome) :
    IsLookup parameters (callsIn events) := by
  cases h with
  | unasked => exact .unasked
  | refused | unfound | unchecked => exact .searched
  | @checked reply link => exact .checked link

/-- The calls are those for the images of the topics, one topic after the other. -/
def AreLookups (options : Options) (access : Image.SearchAccess) (topics : List Fields)
    (calls : List Call) : Prop :=
  ∃ blocks, calls = blocks.flatten ∧
    List.Forall₂ (fun topic => IsLookup (imageQuery options access topic)) topics blocks

section Lookups

variable {access : Image.SearchAccess} {topics : List Fields}

/-- No lookups are lookups for any topics. -/
theorem areLookups_nil (options : Options) (access : Image.SearchAccess) (topics : List Fields) :
    AreLookups options access topics [] := by
  induction topics with
  | nil => exact ⟨[], rfl, .nil⟩
  | cons topic rest ih =>
    obtain ⟨blocks, hcalls, hblocks⟩ := ih
    exact ⟨[] :: blocks, by rw [List.flatten_cons, ← hcalls]; rfl, .cons .unasked hblocks⟩

/-- The lookup for a topic comes before those for the topics after it. -/
theorem AreLookups.cons {topic : Fields} {first later : List Call}
    (hfirst : IsLookup (imageQuery options access topic) first)
    (hlater : AreLookups options access topics later) :
    AreLookups options access (topic :: topics) (first ++ later) := by
  obtain ⟨blocks, rfl, hblocks⟩ := hlater
  exact ⟨first :: blocks, List.flatten_cons.symm, .cons hfirst hblocks⟩

/-- Images are looked up topic by topic. -/
theorem IllustrationCourse.areLookups {outcome : Except Fault (List Fields)}
    (h : IllustrationCourse options access topics events outcome) :
    AreLookups options access topics (callsIn events) := by
  induction h with
  | done => exact areLookups_nil options access []
  | @failed topic rest first fault line hfirst =>
    -- Nothing is looked up for the topics after a failure.
    rw [callsIn_log, ← List.append_nil (callsIn first)]
    exact .cons hfirst.isLookup (areLookups_nil options access rest)
  | next line hfirst _ _ ih =>
    rw [callsIn_log, callsIn_append]
    exact .cons hfirst.isLookup ih

end Lookups

/-! ## The parts of the second stage -/

/-- The parts in which a presentation is written: the authorization, the images of the topics and
the documents. -/
structure DeckParts (env : Environment) (options : Options) (topics : List Fields)
    (first second third : List Event) : Prop where
  authorization : ∀ event ∈ first, Within [.authorization] event.action
  images : ∀ event ∈ second, Within [.web] event.action
  documents : ∀ event ∈ third,
    Within [.sheets options.spreadsheet, .slides options.presentation] event.action
  lookups : AreLookups options (searchAccess env options) topics (callsIn second)
  configured : second ≠ [] →
    (searchAccess env options).key ≠ "" ∧ (searchAccess env options).engine ≠ ""
  /-- The images and the documents have to wait for the clients. -/
  built : second ≠ [] ∨ third ≠ [] →
    options.spreadsheet ≠ "" ∧ ∃ credentials, IsBuilt credentials first

variable {topics : List Fields}

/-- There may be nothing but an authorization. -/
theorem deckParts_of_authorization
    (h : ∀ event ∈ events, Within [.authorization] event.action) :
    DeckParts env options topics events [] [] where
  authorization := h
  images _ hmem := nomatch hmem
  documents _ hmem := nomatch hmem
  lookups := areLookups_nil options _ topics
  configured hne := absurd rfl hne
  built hne := by simp at hne

/-- With the clients, the images are looked up before the documents are touched. -/
theorem deckParts_of_illustrate {first second third : List Event} {clients : Slides.Clients}
    {outcome : Except Fault (List Fields)}
    (hauthorize : (authorize env).Course first (.ok clients)) (hsheet : options.spreadsheet ≠ "")
    (himages : (illustrate env options topics).Course second outcome)
    (hdocuments : ∀ event ∈ third,
      Within [.sheets options.spreadsheet, .slides options.presentation] event.action) :
    DeckParts env options topics first second third where
  authorization := within_of_authorize hauthorize
  images := (keepsTo_illustrate env options topics).forall_mem_course himages
  documents := hdocuments
  lookups := by
    rcases illustrate_cases himages with ⟨rfl, -⟩ | ⟨-, -, hcourse⟩
    · exact areLookups_nil options _ topics
    · exact hcourse.areLookups
  configured hne := by
    rcases illustrate_cases himages with ⟨rfl, -⟩ | ⟨hkey, hengine, -⟩
    · exact absurd rfl hne
    · exact ⟨hkey, hengine⟩
  built _ := by
    obtain ⟨credentials, -, hbuilt⟩ := built_of_authorize hauthorize
    exact ⟨hsheet, credentials, hbuilt⟩

/-- The second stage is the authorization, the images and the documents, in this order. -/
theorem DeckCourse.parts {outcome : Except Fault Unit}
    (h : DeckCourse env options topics events outcome) :
    ∃ first second third, events = first ++ (second ++ third) ∧
      DeckParts env options topics first second third := by
  have hlog : ∀ {parties line}, ∀ event ∈ [(⟨.log line, ()⟩ : Event)],
      Within parties event.action := fun event hmem => List.mem_singleton.1 hmem ▸ trivial
  -- Where no image or document is reached, these parts are empty; a logged line goes to either.
  cases h with
  | skipped hauthorize | noSheet hauthorize =>
    refine ⟨_, [], [], (List.append_nil _).symm, deckParts_of_authorization ?_⟩
    exact List.forall_mem_append.2 ⟨within_of_authorize hauthorize, hlog⟩
  | unauthorized hauthorize =>
    refine ⟨_, [], [], (List.append_nil _).symm, deckParts_of_authorization ?_⟩
    exact within_of_authorize hauthorize
  | noImage hauthorize hsheet himages =>
    exact ⟨_, _, [], by rw [List.append_nil],
      deckParts_of_illustrate hauthorize hsheet himages (by simp)⟩
  | written hauthorize hsheet himages hwrite =>
    refine ⟨_, _, _, rfl, deckParts_of_illustrate hauthorize hsheet himages ?_⟩
    exact within_of_writeTopics hwrite
  | unwritten hauthorize hsheet himages hwrite =>
    refine ⟨_, _, _, rfl, deckParts_of_illustrate hauthorize hsheet himages ?_⟩
    exact List.forall_mem_append.2 ⟨within_of_writeTopics hwrite, hlog⟩

/-! ## When calls are made -/

/-- The topics of the report were asked for and printed. -/
def HasPrinted (env : Environment) (options : Options) (events : List Event)
    (report : Topics.Report) : Prop :=
  ∃ first last, events = first ++ printing report :: last ∧
    ProposalCourse env options first (.ok report)

/-- The calls that a run with the given options may make after some events. -/
inductive IsOnTarget (env : Environment) (options : Options) (before : List Event)
    (request : Call) : Prop
  | question : request.party ∈ [.model, .time] → IsOnTarget env options before request
  | authorization : request.party = .authorization → options.presentation ≠ "" →
      IsOnTarget env options before request
  /-- The web has to wait for its configuration, and the documents for the web. -/
  | image : request.party = .web → (searchAccess env options).key ≠ "" →
      (searchAccess env options).engine ≠ "" →
      (∀ earlier ∈ callsIn before, ¬ earlier.IsDocument) → IsOnTarget env options before request
  /-- The documents have to wait for their names, for the printed topics and for the clients. -/
  | document {report : Topics.Report} {credentials : Credentials} :
      request.party = .sheets options.spreadsheet ∨ request.party = .slides options.presentation →
      options.presentation ≠ "" → options.spreadsheet ≠ "" → HasPrinted env options before report →
      IsBuilt credentials before → IsOnTarget env options before request

/-- What a run with the given options touches, and when. -/
structure StaysOnTarget (env : Environment) (options : Options) (events : List Event) : Prop where
  calls : ∀ {before request reply}, before ++ [⟨.call request, reply⟩] <+: events →
    IsOnTarget env options before request
  /-- The web is asked for the images of the printed topics, in their order. -/
  lookups : (callsIn events).filter Call.isWeb = [] ∨
    ∃ report, HasPrinted env options events report ∧
      AreLookups options (searchAccess env options) report.topics
        ((callsIn events).filter Call.isWeb)

/-- A call that is made in a part is to one of its parties. -/
theorem party_mem_of_place {parties : List Party} {before : List Event} {request : Call}
    {reply : Except Fault request.Reply} (h : ∀ event ∈ events, Within parties event.action)
    (hplace : before ++ [⟨.call request, reply⟩] <+: events) : request.party ∈ parties :=
  h _ (hplace.subset (List.mem_append_right before List.mem_cons_self))

/-- A part without the web has no calls to it. -/
theorem filter_isWeb_eq_nil {parties : List Party}
    (h : ∀ event ∈ events, Within parties event.action) (hweb : .web ∉ parties) :
    (callsIn events).filter Call.isWeb = [] := by
  refine List.filter_eq_nil_iff.2 fun request hmem hrequest => hweb ?_
  rw [← of_decide_eq_true hrequest]
  exact forall_mem_callsIn h request hmem

/-- No document is touched by calls to other parties. -/
theorem not_isDocument {parties : List Party}
    (h : ∀ event ∈ events, Within parties event.action)
    (hparties : ∀ document, .sheets document ∉ parties ∧ .slides document ∉ parties) :
    ∀ request ∈ callsIn events, ¬ request.IsDocument := by
  rintro request hmem ⟨document, hparty | hparty⟩
  · exact (hparties document).1 (hparty ▸ forall_mem_callsIn h request hmem)
  · exact (hparties document).2 (hparty ▸ forall_mem_callsIn h request hmem)

/-- A run that only asks models touches nothing. -/
theorem IsAsking.staysOnTarget (h : IsAsking events) : StaysOnTarget env options events where
  calls hplace := .question (party_mem_of_place h hplace)
  lookups := .inl (filter_isWeb_eq_nil h (by simp))

/-- What is printed after the questions touches nothing either. -/
theorem IsAsking.staysOnTarget_print {first : List Event} (h : IsAsking first) (text : String)
    (answer : Except Fault Unit) :
    StaysOnTarget env options (first ++ [⟨.print text, answer⟩]) where
  calls {before request reply} hplace := by
    rcases prefix_append_cases hplace with hfirst | ⟨later, rfl, hlater⟩
    · exact .question (party_mem_of_place h hfirst)
    · cases later <;> simp at hlater
  lookups := .inl <| by
    rw [callsIn_append, List.filter_append, filter_isWeb_eq_nil h (by simp)]
    rfl

/-- What was built stays built. -/
theorem IsBuilt.mono {credentials : Credentials} {first : List Event}
    (h : IsBuilt credentials first) (hsubset : first ⊆ events) : IsBuilt credentials events :=
  ⟨hsubset h.1, hsubset h.2⟩

section Parts

variable {shown first second third : List Event}

/-- All calls to the web are for images. -/
theorem DeckParts.filter_isWeb (h : DeckParts env options topics first second third) :
    (callsIn (first ++ (second ++ third))).filter Call.isWeb = callsIn second := by
  have hsecond : (callsIn second).filter Call.isWeb = callsIn second :=
    List.filter_eq_self.2 fun request hmem =>
      decide_eq_true (List.mem_singleton.1 (forall_mem_callsIn h.images request hmem))
  simp only [callsIn_append, List.filter_append]
  rw [filter_isWeb_eq_nil h.authorization (by simp), hsecond,
    filter_isWeb_eq_nil h.documents (by simp), List.nil_append, List.append_nil]

/-- After the topics are printed, the calls are made part by part. -/
theorem DeckParts.isOnTarget {report : Topics.Report} {before : List Event} {request : Call}
    {reply : Except Fault request.Reply}
    (h : DeckParts env options report.topics first second third)
    (hnamed : options.presentation ≠ "")
    (hproposal : ProposalCourse env options shown (.ok report))
    (hplace : before ++ [⟨.call request, reply⟩] <+: first ++ (second ++ third)) :
    IsOnTarget env options (shown ++ printing report :: before) request := by
  have hprinted : HasPrinted env options (shown ++ printing report :: before) report :=
    ⟨shown, before, rfl, hproposal⟩
  have hasked : ∀ earlier ∈ callsIn shown, ¬ earlier.IsDocument :=
    not_isDocument hproposal.isAsking (by simp)
  -- The part of the call says what comes before it: all parts that stand to its left.
  rcases prefix_append_cases hplace with hfirst | ⟨later, rfl, hlater⟩
  · exact .authorization (List.mem_singleton.1 (party_mem_of_place h.authorization hfirst)) hnamed
  rcases prefix_append_cases hlater with hsecond | ⟨last, rfl, hthird⟩
  · obtain ⟨hkey, hengine⟩ := h.configured (by rintro rfl; simp at hsecond)
    refine .image (List.mem_singleton.1 (party_mem_of_place h.images hsecond)) hkey hengine ?_
    have hlooked : ∀ earlier ∈ callsIn later, ¬ earlier.IsDocument :=
      not_isDocument (fun event hmem => h.images event
        (hsecond.subset (List.mem_append_left _ hmem))) (by simp)
    simp only [callsIn_append, printing, callsIn_print, List.forall_mem_append]
    exact ⟨hasked, not_isDocument h.authorization (by simp), hlooked⟩
  · obtain ⟨hsheet, credentials, hbuilt⟩ := h.built (.inr (by rintro rfl; simp at hthird))
    refine .document ?_ hnamed hsheet hprinted (hbuilt.mono fun event hmem => by simp [hmem])
    simpa using party_mem_of_place h.documents hthird

/-- Only models are asked before the topics are printed. -/
theorem ProposalCourse.staysOnTarget {report : Topics.Report}
    (h : ProposalCourse env options shown (.ok report))
    (hcalls : ∀ {before request reply}, before ++ [⟨.call request, reply⟩] <+: events →
      IsOnTarget env options (shown ++ printing report :: before) request)
    (hlookups : (callsIn events).filter Call.isWeb = [] ∨
      AreLookups options (searchAccess env options) report.topics
        ((callsIn events).filter Call.isWeb)) :
    StaysOnTarget env options (shown ++ printing report :: events) where
  calls hplace := by
    rcases prefix_append_cases hplace with hshown | ⟨later, rfl, hlater⟩
    · exact .question (party_mem_of_place h.isAsking hshown)
    cases later with
    | nil =>
      -- The report is printed here, so there is no call.
      simp [printing] at hlater
    | cons event later =>
      obtain ⟨rfl, hrest⟩ := List.cons_prefix_cons.1 hlater
      exact hcalls hrest
  lookups := by
    have hweb : (callsIn (shown ++ printing report :: events)).filter Call.isWeb =
        (callsIn events).filter Call.isWeb := by
      rw [callsIn_append, List.filter_append, filter_isWeb_eq_nil h.isAsking (by simp)]
      rfl
    rw [hweb]
    exact hlookups.imp_right fun h' => ⟨report, ⟨shown, events, rfl, h⟩, h'⟩

end Parts

/-- Each course of a run stays on its targets. -/
theorem RunCourse.staysOnTarget {outcome : Except Fault Outcome}
    (h : RunCourse env options events outcome) : StaysOnTarget env options events := by
  have hnothing : IsAsking [] := fun _ hmem => nomatch hmem
  cases h with
  | emptyNumber | refused => exact hnothing.staysOnTarget
  | rejected _ _ _ hscreen => exact (isAsking_of_screen hscreen).staysOnTarget
  | unproposed hproposal => exact hproposal.isAsking.staysOnTarget
  | unprinted _ hproposal => exact hproposal.isAsking.staysOnTarget_print _ _
  | printed hproposal =>
    refine hproposal.staysOnTarget (fun hplace => ?_) (.inl rfl)
    simp at hplace
  | written hproposal hnamed hdeck =>
    obtain ⟨first, second, third, rfl, hparts⟩ := (deckCourse_of_course hdeck).parts
    refine hproposal.staysOnTarget (hparts.isOnTarget hnamed hproposal) (.inr ?_)
    rw [hparts.filter_isWeb]
    exact hparts.lookups

/-- Every run touches only what its options name, whatever the outside answers. A run that takes no
options from its arguments does nothing. -/
theorem staysOnTarget_run {σ : Type} (answer : (action : Action) → σ → action.Answer × σ)
    (state : σ) (env : Environment) (arguments : List String) :
    match readArguments env arguments with
    | .ok (.plan options) => StaysOnTarget env options ((run env arguments).events answer state)
    | _ => (run env arguments).events answer state = [] := by
  have hcourse := course_events answer (run env arguments) state
  split
  · next options hread => exact (runCourse_of_course hread hcourse).staysOnTarget
  · next hidle =>
    cases hread : readArguments env arguments with
    | error misuse => rw [run, hread]; rfl
    | ok reading =>
      cases reading with
      | help => rw [run, hread]; rfl
      | plan options => exact absurd hread (hidle options)

end CommandLine

end DeckPlan
