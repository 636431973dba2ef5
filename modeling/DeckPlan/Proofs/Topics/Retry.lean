import DeckPlan.Proofs.Model.Attempt
import DeckPlan.Proofs.Topics.Answer
import DeckPlan.Topics.Report

/-!
# A stricter request for topics

A request for topics is one attempt to have an answer from a model, or two: an answer that is
rejected is asked for once more, with stricter words. `IsConcluded` says of the attempts when there
is a second one and what comes out of the request, for any notion of which answers are rejected.

* `isConcluded_of_request` holds of the request alone: of one attempt (`isConcluded_once`), and of
  two (`isConcluded_twice`),
* `isReportOf_mk` says that the topics and the token counts of the report are from one answer,
* `isConcluded_propose` holds of every run that asks for topics, where answers are rejected for what
  they say (`IsRejected`).

An answer may also be nested too deeply to be read. Then the request ends at once, so it is not
concluded where all answers that cannot be read are taken for rejected ones
(`not_isConcluded_of_nested`).
-/

namespace DeckPlan.Topics

open Json (Container)
open Model (Attempt geminiUser)

/-! ## Rejected answers -/

/-- An answer is rejected if what is wrong with it is that it is no list of topics. -/
def IsRejected (text : String) : Prop :=
  ∃ fault, readTopics text = .error fault ∧ fault.isValueFault = true

/-- An answer is unread if it cannot be read, for whatever reason. -/
def IsUnread (text : String) : Prop :=
  ∃ fault, readTopics text = .error fault

section Requests

variable {env : Environment} {prompt : String} {model : Json} {β γ : Type}
  {rejects : String → Prop} {yields : Model.Reply → List Fields → β → Prop}
  {first : Attempt env prompt model} {second : Option (Attempt env (prompt ++ strictSuffix) model)}
  {outcome : Except Fault β}

/-- What comes out of the first attempt and of the second, if there is one. -/
def results (first : Attempt env prompt model)
    (second : Option (Attempt env (prompt ++ strictSuffix) model)) :
    List (Except Fault Model.Reply) :=
  first.outcome :: (second.map Attempt.outcome).toList

/-- The events of the first attempt and of the second, of which the user is told. -/
def requestEvents (first : Attempt env prompt model)
    (second : Option (Attempt env (prompt ++ strictSuffix) model)) : List Event :=
  first.events ++ (second.map fun attempt => ⟨.log retryNotice, ()⟩ :: attempt.events).getD []

/-- A request for topics with its outcome, where `rejects` says which answers are asked for once
more and `yields` what is had from an answer with topics. -/
structure IsConcluded (rejects : String → Prop) (yields : Model.Reply → List Fields → β → Prop)
    (first : Attempt env prompt model)
    (second : Option (Attempt env (prompt ++ strictSuffix) model)) (outcome : Except Fault β) :
    Prop where
  /-- There is a second attempt exactly if the first answer is rejected. -/
  second_iff : second.isSome ↔ ∃ reply, first.outcome = .ok reply ∧ rejects reply.text
  /-- The second attempt is a call, and it sends the first prompt with the stricter words. -/
  called : ∀ attempt ∈ second, ∃ call reply, attempt.events = [⟨.call call, reply⟩] ∧
    Model.prompt? call = some (prompt ++ strictSuffix)
  /-- What an attempt fails with is what the request fails with. -/
  failed : ∀ fault, .error fault ∈ results first second → outcome = .error fault
  /-- An answer with topics is what the result is from. -/
  accepted : ∀ reply objects, .ok reply ∈ results first second →
    readTopics reply.text = .ok objects → ∃ value, outcome = .ok value ∧ yields reply objects value
  returned : ∀ value, outcome = .ok value → ∃ reply objects, .ok reply ∈ results first second ∧
    readTopics reply.text = .ok objects
  /-- If both answers are rejected, the message holds what is wrong with the second one, and all of
  this answer. -/
  refused : ∀ former latter, results first second = [.ok former, .ok latter] →
    rejects former.text → rejects latter.text →
      ∃ cause fault, readTopics latter.text = .error cause ∧ outcome = .error fault ∧
        fault.kind = .value ∧ fault.message =
          "invalid JSON from model: " ++ cause.message ++ "\nraw: " ++ latter.text
  /-- An answer that is not rejected and has no topics ends the request with its own fault. -/
  broken : ∀ reply fault, .ok reply ∈ results first second → ¬ rejects reply.text →
    readTopics reply.text = .error fault → outcome = .error fault

/-- What the result of a request is turned into comes from the same answer. -/
theorem IsConcluded.map {yields' : Model.Reply → List Fields → γ → Prop}
    {outcome' : Except Fault γ} (h : IsConcluded rejects yields first second outcome)
    (hok : ∀ value, outcome = .ok value → ∃ value', outcome' = .ok value' ∧
      ∀ reply objects, yields reply objects value → yields' reply objects value')
    (herror : ∀ fault, outcome = .error fault → outcome' = .error fault) :
    IsConcluded rejects yields' first second outcome' where
  second_iff := h.second_iff
  called := h.called
  failed fault hfault := herror fault (h.failed fault hfault)
  accepted reply objects hreply hobjects := by
    obtain ⟨value, hvalue, hyields⟩ := h.accepted reply objects hreply hobjects
    obtain ⟨value', hvalue', hsame⟩ := hok value hvalue
    exact ⟨value', hvalue', hsame reply objects hyields⟩
  returned value' hvalue' := by
    cases houtcome : outcome with
    | ok value => exact h.returned value houtcome
    | error fault =>
      rw [herror fault houtcome] at hvalue'
      cases hvalue'
  refused former latter hresults hformer hlatter := by
    obtain ⟨cause, fault, hcause, hfault, hmessage⟩ :=
      h.refused former latter hresults hformer hlatter
    exact ⟨cause, fault, hcause, herror fault hfault, hmessage⟩
  broken reply fault hreply hnot hfault := herror fault (h.broken reply fault hreply hnot hfault)

/-! ## One request -/

/-- What is had from an answer. -/
def reading (reply : Model.Reply) : Except Fault (List Fields × Option Model.Usage) :=
  (readTopics reply.text).map fun topics => (topics, reply.usage)

/-- What is had from the last answer. A fault for which an answer is rejected is reported with the
answer. -/
def lastReading (reply : Model.Reply) : Except Fault (List Fields × Option Model.Usage) :=
  (reading reply).mapError fun fault =>
    if fault.isValueFault then .unusableTopics fault reply.text else fault

/-- An answer with topics is taken. -/
theorem reading_of_ok {reply : Model.Reply} {objects : List Fields}
    (h : readTopics reply.text = .ok objects) : reading reply = .ok (objects, reply.usage) := by
  rw [reading, h]
  rfl

/-- An answer without topics fails with what is wrong with it. -/
theorem reading_of_error {reply : Model.Reply} {fault : Fault}
    (h : readTopics reply.text = .error fault) : reading reply = .error fault := by
  rw [reading, h]
  rfl

/-- The last answer is taken if it has topics. -/
theorem lastReading_of_ok {reply : Model.Reply} {objects : List Fields}
    (h : readTopics reply.text = .ok objects) : lastReading reply = .ok (objects, reply.usage) := by
  rw [lastReading, reading_of_ok h]
  rfl

/-- A last answer that is rejected fails with its text, and any other one with what is wrong with
it. -/
theorem lastReading_of_error {reply : Model.Reply} {fault : Fault}
    (h : readTopics reply.text = .error fault) :
    lastReading reply =
      .error (if fault.isValueFault then .unusableTopics fault reply.text else fault) := by
  rw [lastReading, reading_of_error h]
  rfl

-- The linter would try to run the reader on a text that is not known.
set_option linter.constructorNameAsVariable false in
/-- A request is one attempt, or two if the first answer is rejected. -/
theorem request_cases {events : List Event}
    {outcome : Except Fault (List Fields × Option Model.Usage)}
    (h : (request env prompt model).Course events outcome) :
    ∃ first : Attempt env prompt model,
      (events = first.events ∧ outcome = first.outcome.bind reading ∧
        ∀ reply, first.outcome = .ok reply → ¬ IsRejected reply.text) ∨
      ∃ (second : Attempt env (prompt ++ strictSuffix) model) (former : Model.Reply),
        events = requestEvents first (some second) ∧ first.outcome = .ok former ∧
          IsRejected former.text ∧ outcome = second.outcome.bind lastReading := by
  rcases Program.trace_bind.1 h with
    ⟨fault, hfail, rfl⟩ | ⟨reply, asked, later, rfl, hasked, hread⟩
  · -- The first attempt fails, so there is no answer that could be rejected.
    obtain ⟨first, rfl, hfirst⟩ := Model.exists_attempt hfail
    refine ⟨first, .inl ⟨rfl, by rw [hfirst]; rfl, fun reply hreply => ?_⟩⟩
    rw [hfirst] at hreply
    cases hreply
  obtain ⟨first, rfl, hfirst⟩ := Model.exists_attempt hasked
  split at hread
  · next topics htopics =>
    obtain ⟨rfl, rfl⟩ := hread
    refine ⟨first, .inl ⟨List.append_nil _, ?_, fun other hother => ?_⟩⟩
    · rw [hfirst, Except.bind, reading_of_ok htopics]
    · obtain rfl := Except.ok.inj (hfirst.symm.trans hother)
      rintro ⟨fault, hfault, -⟩
      rw [htopics] at hfault
      cases hfault
  · next fault hfault =>
    split at hread
    · next hvalue =>
      -- The answer is rejected: the user is told so, and the model is asked once more.
      obtain ⟨rest, rfl, hagain⟩ := Program.course_log_bind.1 hread
      refine ⟨first, .inr ?_⟩
      rcases Program.trace_bind.1 hagain with
        ⟨fault', hfail, rfl⟩ | ⟨strict, asked', last, rfl, hasked', hreread⟩
      · obtain ⟨second, rfl, hsecond⟩ := Model.exists_attempt hfail
        exact ⟨second, reply, rfl, hfirst, ⟨fault, hfault, hvalue⟩, by rw [hsecond]; rfl⟩
      obtain ⟨second, rfl, hsecond⟩ := Model.exists_attempt hasked'
      refine ⟨second, reply, ?_, hfirst, ⟨fault, hfault, hvalue⟩, ?_⟩
      · split at hreread <;> obtain ⟨rfl, -⟩ := hreread <;> rw [List.append_nil] <;> rfl
      · rw [hsecond]
        split at hreread
        · next topics htopics =>
          obtain ⟨-, rfl⟩ := hreread
          rw [Except.bind, lastReading_of_ok htopics]
        · next fault' hfault' =>
          obtain ⟨-, rfl⟩ := hreread
          rw [Except.bind, lastReading_of_error hfault']
    · next hvalue =>
      -- The answer cannot be read for another reason, which ends the request.
      obtain ⟨rfl, rfl⟩ := hread
      refine ⟨first, .inl ⟨List.append_nil _, ?_, fun other hother => ?_⟩⟩
      · rw [hfirst, Except.bind, reading_of_error hfault]
      · obtain rfl := Except.ok.inj (hfirst.symm.trans hother)
        rintro ⟨fault', hfault', hrejected⟩
        obtain rfl := Except.error.inj (hfault.symm.trans hfault')
        exact hvalue hrejected

/-- A request whose only answer is not rejected. -/
theorem isConcluded_once (hnot : ∀ reply, first.outcome = .ok reply → ¬ IsRejected reply.text) :
    IsConcluded IsRejected (fun reply objects value => value = (objects, reply.usage)) first none
      (first.outcome.bind reading) where
  second_iff := by
    refine iff_of_false (by simp) ?_
    rintro ⟨reply, hreply, hrejected⟩
    exact hnot reply hreply hrejected
  called _ h := nomatch h
  failed fault hfault := by
    have hfirst : first.outcome = .error fault := (List.mem_singleton.1 hfault).symm
    rw [hfirst]
    rfl
  accepted reply objects hreply hobjects := by
    have hfirst : first.outcome = .ok reply := (List.mem_singleton.1 hreply).symm
    refine ⟨_, ?_, rfl⟩
    rw [hfirst, Except.bind, reading_of_ok hobjects]
  returned value hvalue := by
    cases hfirst : first.outcome with
    | error fault =>
      rw [hfirst] at hvalue
      cases hvalue
    | ok reply =>
      rw [hfirst, Except.bind] at hvalue
      cases hread : readTopics reply.text with
      | error fault =>
        rw [reading_of_error hread] at hvalue
        cases hvalue
      | ok objects => exact ⟨reply, objects, List.mem_singleton.2 hfirst.symm, hread⟩
  refused former latter hresults := by
    -- There was but one attempt.
    have hlength := congrArg List.length hresults
    cases hlength
  broken reply fault hreply _ hfault := by
    have hfirst : first.outcome = .ok reply := (List.mem_singleton.1 hreply).symm
    rw [hfirst, Except.bind, reading_of_error hfault]

theorem mem_results_some {again : Attempt env (prompt ++ strictSuffix) model}
    {result : Except Fault Model.Reply} :
    result ∈ results first (some again) ↔ first.outcome = result ∨ again.outcome = result := by
  simp [results, eq_comm]

/-- A request whose first answer is rejected. -/
theorem isConcluded_twice {former : Model.Reply} (hformer : first.outcome = .ok former)
    (hrejected : IsRejected former.text) (again : Attempt env (prompt ++ strictSuffix) model) :
    IsConcluded IsRejected (fun reply objects value => value = (objects, reply.usage)) first
      (some again) (again.outcome.bind lastReading) where
  second_iff := iff_of_true rfl ⟨former, hformer, hrejected⟩
  called attempt hattempt := by
    obtain rfl := Option.some.inj hattempt
    obtain ⟨call, hcall⟩ := first.callFor_eq_ok hformer
    exact again.exists_call hcall
  failed fault hfault := by
    rcases mem_results_some.1 hfault with hfirst | hlast
    · cases hformer.symm.trans hfirst
    · rw [hlast, Except.bind]
  accepted reply objects hreply hobjects := by
    rcases mem_results_some.1 hreply with hfirst | hlast
    · obtain rfl := Except.ok.inj (hformer.symm.trans hfirst)
      obtain ⟨fault, hfault, -⟩ := hrejected
      cases hobjects.symm.trans hfault
    · refine ⟨_, ?_, rfl⟩
      rw [hlast, Except.bind, lastReading_of_ok hobjects]
  returned value hvalue := by
    cases hlast : again.outcome with
    | error fault =>
      rw [hlast] at hvalue
      cases hvalue
    | ok reply =>
      rw [hlast, Except.bind] at hvalue
      cases hread : readTopics reply.text with
      | error fault =>
        rw [lastReading_of_error hread] at hvalue
        cases hvalue
      | ok objects => exact ⟨reply, objects, mem_results_some.2 (.inr hlast), hread⟩
  -- Both answers are rejected, and the second of them is told.
  refused _ latter hresults _ hlatter := by
    have hlast : again.outcome = .ok latter := (List.cons.inj (List.cons.inj hresults).2).1
    obtain ⟨cause, hcause, hvalue⟩ := hlatter
    refine ⟨cause, .unusableTopics cause latter.text, hcause, ?_, rfl, rfl⟩
    rw [hlast, Except.bind, lastReading_of_error hcause, if_pos hvalue]
  -- The first answer is rejected, so an answer that is not is the second.
  broken reply fault hreply hnot hfault := by
    rcases mem_results_some.1 hreply with hfirst | hlast
    · obtain rfl := Except.ok.inj (hformer.symm.trans hfirst)
      exact absurd hrejected hnot
    · rw [hlast, Except.bind, lastReading_of_error hfault, if_neg]
      exact fun hvalue => hnot ⟨fault, hfault, hvalue⟩

/-- A request for topics is one attempt or two, and the last one decides. -/
theorem isConcluded_of_request {events : List Event}
    {outcome : Except Fault (List Fields × Option Model.Usage)}
    (h : (request env prompt model).Course events outcome) :
    ∃ (first : Attempt env prompt model)
      (second : Option (Attempt env (prompt ++ strictSuffix) model)),
      events = requestEvents first second ∧
        IsConcluded IsRejected (fun reply objects value => value = (objects, reply.usage)) first
          second outcome := by
  obtain ⟨first, ⟨rfl, rfl, hnot⟩ | ⟨second, former, rfl, hformer, hrejected, rfl⟩⟩ :=
    request_cases h
  · exact ⟨first, none, (List.append_nil _).symm, isConcluded_once hnot⟩
  · exact ⟨first, some second, rfl, isConcluded_twice hformer hrejected second⟩

end Requests

/-! ## Reports -/

/-- What a report tells of the request for its topics. -/
def metaOf (report : Report) : Json :=
  (report.toJson.field? "meta").getD .null

/-- The names of the token counts. -/
def tokenCounts : List (String × (Model.Usage → Int)) :=
  [("prompt_tokens", Model.Usage.prompt), ("output_tokens", Model.Usage.output),
    ("total_tokens", Model.Usage.total)]

/-- The topics and the token counts of the report are those of the answer. Counts of zero are left
out. -/
structure IsReportOf (limit : Option Int) (reply : Model.Reply) (objects : List Fields)
    (report : Report) : Prop where
  topics_eq : report.topics = (firstTopics limit objects).map normalize
  count_iff : ∀ entry ∈ tokenCounts, ∀ value, (metaOf report).field? entry.1 = some value ↔
    ∃ usage, reply.usage = some usage ∧ entry.2 usage ≠ 0 ∧ value = .int (entry.2 usage)

theorem get?_countField_append (key other : String) (count : Int) (rest : Fields) :
    Fields.get? (countField other count ++ rest) key =
      if other = key ∧ count ≠ 0 then some (.int count) else Fields.get? rest key := by
  rw [countField]
  split
  · next hzero => simp [hzero]
  · next hne => simp [Fields.get?_cons, hne]

theorem get?_countField (key other : String) (count : Int) :
    Fields.get? (countField other count) key =
      if other = key ∧ count ≠ 0 then some (.int count) else none := by
  simpa using get?_countField_append key other count []

/-- A report tells the counts that are not zero. -/
theorem field?_metaOf (report : Report) {entry : String × (Model.Usage → Int)}
    (hentry : entry ∈ tokenCounts) :
    (metaOf report).field? entry.1 = report.usage.bind fun usage =>
      if entry.2 usage ≠ 0 then some (.int (entry.2 usage)) else none := by
  have hmeta : metaOf report = .obj ([("model", report.model), ("latency_ms", .int report.latency)]
      ++ (report.usage.map usageFields).getD []) := by
    simp [metaOf, Report.toJson, Json.field?, Fields.get?_cons]
  simp only [tokenCounts, List.mem_cons, List.not_mem_nil, or_false] at hentry
  rw [hmeta]
  cases report.usage with
  | none => rcases hentry with rfl | rfl | rfl <;> simp [Json.field?, Fields.get?_cons]
  | some usage =>
    rcases hentry with rfl | rfl | rfl <;>
      simp [Json.field?, Fields.get?_cons, usageFields, get?_countField_append, get?_countField]

/-- The report holds what the reply gives. -/
theorem isReportOf_mk (limit : Option Int) (reply : Model.Reply) (objects : List Fields)
    (model : Json) (latency : Int) :
    IsReportOf limit reply objects
      { topics := (firstTopics limit objects).map normalize, model, latency,
        usage := reply.usage } where
  topics_eq := rfl
  count_iff entry hentry value := by
    rw [field?_metaOf _ hentry]
    cases reply.usage <;> simp [eq_comm]

/-! ## Every run -/

/-- The readings of the clock among events, in order. -/
def readings (events : List Event) : List Binary64 :=
  events.filterMap fun
    | ⟨.readClock, time⟩ => some time
    | _ => none

theorem readings_append (first second : List Event) :
    readings (first ++ second) = readings first ++ readings second :=
  List.filterMap_append

/-- Whoever asks a model reads no clock. -/
theorem readings_attempt {env : Environment} {prompt : String} {model : Json}
    (attempt : Attempt env prompt model) : readings attempt.events = [] := by
  obtain ⟨events, outcome, hasks⟩ := attempt
  cases hasks <;> rfl

/-- The clock is not read while topics are asked for. -/
theorem readings_requestEvents {env : Environment} {prompt : String} {model : Json}
    (first : Attempt env prompt model)
    (second : Option (Attempt env (prompt ++ strictSuffix) model)) :
    readings (requestEvents first second) = [] := by
  rw [requestEvents, readings_append, readings_attempt]
  cases second with
  | none => rfl
  | some attempt => exact readings_attempt attempt

/-- A request that is timed has two readings of the clock, one at either end. -/
theorem readings_timed {env : Environment} {prompt : String} {model : Json}
    (first : Attempt env prompt model)
    (second : Option (Attempt env (prompt ++ strictSuffix) model)) (started stopped : Binary64) :
    readings (⟨.readClock, started⟩ :: (requestEvents first second ++ [⟨.readClock, stopped⟩])) =
      [started, stopped] := by
  change started :: readings (requestEvents first second ++ [⟨.readClock, stopped⟩]) = _
  rw [readings_append, readings_requestEvents]
  rfl

/-- The time between two readings of the clock is finite. -/
def IsFinite (started stopped : Binary64) : Prop :=
  ((stopped - started).times 1000).truncate?.isSome

instance (started stopped : Binary64) : Decidable (IsFinite started stopped) :=
  inferInstanceAs (Decidable (_ = true))

/-- Between two readings that are finite there is a time. -/
theorem exists_milliseconds {started stopped : Binary64} (h : IsFinite started stopped) :
    ∃ latency, milliseconds started stopped = .ok latency := by
  obtain ⟨latency, hlatency⟩ := Option.isSome_iff_exists.1 h
  exact ⟨latency, by rw [milliseconds]; simp only [hlatency]⟩

/-- The events of a request between one reading of the clock and, if it has an outcome, another. -/
def IsTimed (inner events : List Event) : Prop :=
  ∃ started rest, events = ⟨.readClock, started⟩ :: (inner ++ rest) ∧
    (rest = [] ∨ ∃ stopped, rest = [⟨.readClock, stopped⟩])

/-- Whoever asks for topics makes the request between two readings of the clock. -/
theorem isConcluded_of_propose {env : Environment} {inputs : Guard.Inputs} {limit : Option Int}
    {model : Json} {events : List Event} {outcome : Except Fault Report}
    (h : (propose env inputs limit model).Course events outcome)
    (hclock : ∀ started stopped, readings events = [started, stopped] →
      IsFinite started stopped) :
    ∃ (first : Attempt env (topicPrompt inputs limit) model)
      (second : Option (Attempt env (topicPrompt inputs limit ++ strictSuffix) model)),
      IsTimed (requestEvents first second) events ∧
        IsConcluded IsRejected (IsReportOf limit) first second outcome := by
  obtain ⟨started, rest, rfl, hrequest⟩ := Program.course_readClock_bind.1 h
  rcases Program.trace_bind.1 hrequest with
    ⟨fault, hfail, rfl⟩ | ⟨⟨objects, usage⟩, asked, last, rfl, hasked, hlast⟩
  · -- A request that failed is not timed: the clock was read but once.
    obtain ⟨first, second, rfl, hconcluded⟩ := isConcluded_of_request hfail
    refine ⟨first, second, ⟨started, [], by rw [List.append_nil], .inl rfl⟩, ?_⟩
    exact hconcluded.map (fun _ hvalue => nomatch hvalue) fun _ hfault =>
      congrArg _ (Except.error.inj hfault)
  obtain ⟨first, second, rfl, hconcluded⟩ := isConcluded_of_request hasked
  obtain ⟨stopped, later, rfl, hreport⟩ := Program.course_readClock_bind.1 hlast
  rcases Program.trace_ofExcept_bind.1 hreport with ⟨fault, hfault, rfl, -⟩ | ⟨latency, -, rfl, rfl⟩
  · -- The time is finite, so it is found out.
    obtain ⟨latency, hlatency⟩ :=
      exists_milliseconds (hclock started stopped (readings_timed first second started stopped))
    cases hlatency.symm.trans hfault
  · refine ⟨first, second, ⟨started, _, rfl, .inr ⟨stopped, rfl⟩⟩, hconcluded.map ?_ ?_⟩
    · rintro value hvalue
      obtain rfl := Except.ok.inj hvalue
      refine ⟨_, rfl, fun reply found heq => ?_⟩
      obtain ⟨rfl, rfl⟩ := Prod.mk.inj heq
      exact isReportOf_mk limit reply objects model latency
    · intro fault hfault
      cases hfault

/-- Every request for topics in whose run the clock shows a finite time makes at most two attempts.
A rejected answer is asked for once more, and the report is from the answer that is accepted. -/
theorem isConcluded_propose {σ : Type} (answer : (action : Action) → σ → action.Answer × σ)
    (state : σ) (env : Environment) (inputs : Guard.Inputs) (limit : Option Int) (model : Json)
    (hclock : ∀ started stopped,
      readings ((propose env inputs limit model).events answer state) = [started, stopped] →
        IsFinite started stopped) :
    ∃ (first : Attempt env (topicPrompt inputs limit) model)
      (second : Option (Attempt env (topicPrompt inputs limit ++ strictSuffix) model)),
      IsTimed (requestEvents first second) ((propose env inputs limit model).events answer state) ∧
        IsConcluded IsRejected (IsReportOf limit) first second
          ((propose env inputs limit model).run answer state).1 :=
  isConcluded_of_propose (Program.course_events answer _ state) hclock

theorem mem_readings {events : List Event} {time : Binary64} :
    time ∈ readings events ↔ ⟨.readClock, time⟩ ∈ events := by
  rw [readings, List.mem_filterMap]
  constructor
  · rintro ⟨⟨action, reading⟩, hmem, htime⟩
    cases action with
    | readClock =>
      cases htime
      exact hmem
    | _ => cases htime
  · intro hmem
    exact ⟨_, hmem, rfl⟩

/-- No time passes where models reply in turn. -/
theorem isFinite_of_replyInTurn {α : Type} (first later : Except Fault ModelReply)
    (program : Program α) (again : Bool) {started stopped : Binary64}
    (h : readings (program.events (Model.replyInTurn first later) again) = [started, stopped]) :
    IsFinite started stopped := by
  have hzero : ∀ time ∈ readings (program.events (Model.replyInTurn first later) again),
      time = .zero false := by
    intro time htime
    have hall : ∀ event ∈ program.events (Model.replyInTurn first later) again,
        event = ⟨.readClock, time⟩ → time = .zero false := by
      refine Program.forall_mem_events _ (fun action now heq => ?_) program again
      obtain rfl : action = .readClock := congrArg Event.action heq
      cases heq
      rfl
    exact hall _ (mem_readings.1 htime) rfl
  rw [h, List.forall_mem_cons, List.forall_mem_singleton] at hzero
  rw [hzero.1, hzero.2]
  decide

/-- Inputs with nothing but a subject. -/
def cars : Guard.Inputs where
  subject := "Cars"

/-- The events of a request for topics about cars. -/
def carEvents (first later : ModelReply) : List Event :=
  (propose geminiUser cars (some 5) (.str "gemini")).events
    (Model.replyInTurn (.ok first) (.ok later)) false

/-- What comes out of a request for topics about cars. -/
def carOutcome (first later : ModelReply) : Except Fault Report :=
  ((propose geminiUser cars (some 5) (.str "gemini")).run
    (Model.replyInTurn (.ok first) (.ok later)) false).1

/-- An answer in words that took some tokens. -/
def wordy : ModelReply where
  text := some "Cars are great."
  usage := some { prompt := some 4, output := some 9, total := some 13 }

/-- An answer without topics and without a number of tokens for it. -/
def terse : ModelReply where
  text := some "[]"
  usage := some { prompt := some 6, output := none, total := some 6 }

/-- The second answer is accepted, and the report is from it. -/
theorem isConcluded_propose_cars :
    (∀ started stopped, readings (carEvents wordy terse) = [started, stopped] →
        IsFinite started stopped) ∧
      ∃ (first : Attempt geminiUser (topicPrompt cars (some 5)) (.str "gemini"))
        (second : Option
          (Attempt geminiUser (topicPrompt cars (some 5) ++ strictSuffix) (.str "gemini"))),
        IsTimed (requestEvents first second) (carEvents wordy terse) ∧
          IsConcluded IsRejected (IsReportOf (some 5)) first second (carOutcome wordy terse) := by
  have hclock : ∀ started stopped, readings (carEvents wordy terse) = [started, stopped] →
      IsFinite started stopped := fun _ _ h => isFinite_of_replyInTurn _ _ _ _ h
  exact ⟨hclock, isConcluded_propose (Model.replyInTurn (.ok wordy) (.ok terse)) false geminiUser
    cars (some 5) (.str "gemini") hclock⟩

example : (callsIn (carEvents wordy terse)).length = 2 ∧
    (carOutcome wordy terse).toOption.map (fun report => (report.topics.length, report.usage)) =
      some (0, some { prompt := 6, output := 0, total := 6 }) := by
  decide +kernel

/-! ## Answers that are nested too deeply -/

/-- Arrays that are opened inside of each other are too many. -/
theorem readValue_nested (depth : Nat) {count : Nat} (h : depth < count) (rest : List Char) :
    Json.readValue depth (List.replicate count '[' ++ rest) = .error (.tooDeep .array) := by
  have hquote : '[' ≠ Text.doubleQuote := by decide
  induction depth generalizing count with
  | zero =>
    obtain ⟨count, rfl⟩ := Nat.exists_eq_add_of_lt h
    rw [Nat.zero_add, List.replicate_succ, List.cons_append, Json.readValue, if_neg hquote,
      if_pos rfl]
  | succ depth ih =>
    obtain ⟨count, rfl⟩ := Nat.exists_eq_add_of_lt h
    have hinner : Json.readValue depth (List.replicate (depth + count + 1) '[' ++ rest) =
        .error (.tooDeep .array) := ih (by omega)
    have hspace : Json.skipSpace (List.replicate (depth + count + 1) '[' ++ rest) =
        List.replicate (depth + count + 1) '[' ++ rest := by
      simp [Json.skipSpace, List.replicate_succ, Json.isSpace]
    -- The items start with the next array, which is already too deep.
    have hitems : Json.readItems depth
        (Json.skipSpace (List.replicate (depth + count + 1) '[' ++ rest)) =
          .error (.tooDeep .array) := by
      rw [hspace, Json.readItems, hinner]
    rw [show depth + 1 + count + 1 = (depth + count + 1) + 1 by omega, List.replicate_succ,
      List.cons_append, Json.readValue, if_neg hquote, if_pos rfl]
    simp only
    split
    · next hclosed =>
      rw [hspace, List.replicate_succ, List.cons_append] at hclosed
      cases hclosed
    · rw [hitems]

/-- Arrays inside of each other. -/
def nested (count : Nat) : String :=
  String.ofList (List.replicate count '[' ++ List.replicate count ']')

theorem encloses_nested {count : Nat} (h : 0 < count) :
    Container.array.Encloses (nested count) := by
  constructor
  · simp [nested, List.head?_append, List.head?_replicate, h.ne', Container.opening]
  · simp [nested, List.getLast?_append, List.getLast?_replicate, h.ne', Container.closing]

/-- A text that is nested too deeply is not read. -/
theorem read_nested {count : Nat} (h : Json.maxDepth < count) :
    Json.read (nested count) = .error (.tooDeep .array) := by
  have hfirst : (List.replicate count '[' ++ List.replicate count ']').head? = some '[' := by
    simp [List.head?_append, List.head?_replicate, Nat.ne_zero_of_lt h]
  have hspace : Json.skipSpace (List.replicate count '[' ++ List.replicate count ']') =
      List.replicate count '[' ++ List.replicate count ']' := by
    obtain ⟨less, rfl⟩ := Nat.exists_eq_add_of_lt h
    simp [Json.skipSpace, List.replicate_succ, Json.isSpace]
  have hvalue : Json.readValue Json.maxDepth
      (Json.skipSpace (List.replicate count '[' ++ List.replicate count ']')) =
        .error (.tooDeep .array) := by
    rw [hspace]
    exact readValue_nested Json.maxDepth h _
  rw [Json.read, nested, String.toList_ofList]
  simp only [hfirst]
  rw [if_neg (by decide), hvalue]

/-- An array that holds too many others inside of each other cannot be read. -/
theorem readTopics_nested {count : Nat} (h : Json.maxDepth < count) :
    readTopics (nested count) = .error (.unreadable (nested count) (.tooDeep .array)) := by
  have hreading := isReading_readTopics (nested count)
  rw [extractJson_of_encloses (encloses_nested (Nat.zero_lt_of_lt h))] at hreading
  generalize readTopics (nested count) = result at hreading
  cases hreading with
  | topics hread => cases (read_nested h).symm.trans hread
  | unreadable hread =>
    obtain rfl := Except.error.inj ((read_nested h).symm.trans hread)
    rfl
  | notTopics hread => cases (read_nested h).symm.trans hread

/-- An answer that is nested too deeply is not asked for once more. -/
theorem not_isRejected_nested {count : Nat} (h : Json.maxDepth < count) :
    ¬ IsRejected (nested count) := by
  rintro ⟨fault, hfault, hvalue⟩
  obtain rfl := Except.error.inj ((readTopics_nested h).symm.trans hfault)
  cases hvalue

/-- An answer with arrays inside of each other. -/
def deep (count : Nat) : ModelReply where
  text := some (nested count)

theorem IsTimed.mem {inner events : List Event} (h : IsTimed inner events) {event : Event}
    (hevent : event ∈ inner) : event ∈ events := by
  obtain ⟨started, rest, rfl, -⟩ := h
  exact List.mem_cons_of_mem _ (List.mem_append_left _ hevent)

/-- Whoever asks a model that always replies in the same way gets this reply. -/
theorem outcome_of_same {prompt : String} {raw : ModelReply}
    (attempt : Attempt geminiUser prompt (.str "gemini"))
    (h : ∀ event ∈ attempt.events, event ∈ carEvents raw raw) :
    attempt.outcome = .ok (.ofRaw raw) := by
  have hreplies : ∀ event ∈ carEvents raw raw, ∀ call reply outcome,
      event = ⟨.call call, reply⟩ → Model.outcome? ⟨call, reply⟩ = some outcome →
        outcome = .ok (.ofRaw raw) := by
    refine Program.forall_mem_events _ (fun action again call reply outcome heq houtcome => ?_) _ _
    obtain rfl : action = .call call := congrArg Event.action heq
    cases heq
    cases call with
    | gemini | openai =>
      cases again <;> exact (Option.some.inj houtcome).symm
    | _ => cases houtcome
  obtain ⟨events, outcome, hasks⟩ := attempt
  cases hasks with
  | refused hrefused => cases hrefused
  | called reply _ houtcome => exact hreplies _ (h _ List.mem_cons_self) _ _ _ rfl houtcome

/-- If answers that are nested too deeply were asked for once more, the request would be refused.
But it ends with the fault of the first answer. -/
theorem not_isConcluded_of_deep {count : Nat} (h : Json.maxDepth < count)
    (hclock : ∀ started stopped, readings (carEvents (deep count) (deep count)) =
      [started, stopped] → IsFinite started stopped)
    {first : Attempt geminiUser (topicPrompt cars (some 5)) (.str "gemini")}
    {second : Option
      (Attempt geminiUser (topicPrompt cars (some 5) ++ strictSuffix) (.str "gemini"))}
    (htimed : IsTimed (requestEvents first second) (carEvents (deep count) (deep count))) :
    ¬ IsConcluded IsUnread (IsReportOf (some 5)) first second
      (carOutcome (deep count) (deep count)) := by
  intro hconcluded
  have hread : readTopics (Model.Reply.ofRaw (deep count)).text =
      .error (.unreadable (nested count) (.tooDeep .array)) := readTopics_nested h
  have hfirst := outcome_of_same first fun event hevent =>
    htimed.mem (List.mem_append_left _ hevent)
  obtain ⟨again, rfl⟩ := Option.isSome_iff_exists.1
    (hconcluded.second_iff.2 ⟨_, hfirst, _, hread⟩)
  have hagain := outcome_of_same again fun event hevent =>
    htimed.mem (List.mem_append_right _ (List.mem_cons_of_mem _ hevent))
  have hresults : results first (some again) =
      [.ok (.ofRaw (deep count)), .ok (.ofRaw (deep count))] := by
    rw [results, hfirst]
    exact congrArg (fun result => [_, result]) hagain
  obtain ⟨cause, fault, -, hfault, hkind, -⟩ :=
    hconcluded.refused _ _ hresults ⟨_, hread⟩ ⟨_, hread⟩
  -- What the request really does.
  obtain ⟨first', second', htimed', hconcluded'⟩ := isConcluded_of_propose
    (Program.course_events _ _ _ :
      Program.Course _ (carEvents (deep count) (deep count)) (carOutcome (deep count) (deep count)))
    hclock
  have hfirst' := outcome_of_same first' fun event hevent =>
    htimed'.mem (List.mem_append_left _ hevent)
  have hbroken := hconcluded'.broken (.ofRaw (deep count)) _ (hfirst' ▸ List.mem_cons_self)
    (not_isRejected_nested h) hread
  obtain rfl := Except.error.inj (hfault.symm.trans hbroken)
  cases hkind

/-- An answer that is nested too deeply is not asked for once more, though it cannot be read. -/
theorem not_isConcluded_of_nested :
    (∀ started stopped, readings (carEvents (deep 5000) (deep 5000)) = [started, stopped] →
        IsFinite started stopped) ∧
      ¬ ∃ (first : Attempt geminiUser (topicPrompt cars (some 5)) (.str "gemini"))
        (second : Option
          (Attempt geminiUser (topicPrompt cars (some 5) ++ strictSuffix) (.str "gemini"))),
        IsTimed (requestEvents first second) (carEvents (deep 5000) (deep 5000)) ∧
          IsConcluded IsUnread (IsReportOf (some 5)) first second
            (carOutcome (deep 5000) (deep 5000)) := by
  have hclock : ∀ started stopped, readings (carEvents (deep 5000) (deep 5000)) =
      [started, stopped] → IsFinite started stopped :=
    fun _ _ h => isFinite_of_replyInTurn _ _ _ _ h
  refine ⟨hclock, ?_⟩
  rintro ⟨first, second, htimed, hconcluded⟩
  exact not_isConcluded_of_deep (by decide) hclock htimed hconcluded

end DeckPlan.Topics
