import DeckPlan.Proofs.Model.Attempt
import DeckPlan.Proofs.Model.Generate
import DeckPlan.Proofs.Topics.Schema
import DeckPlan.Topics.Report

/-!
# The topics of a report

Whatever the model answers, a report holds topics of the schema only, and they are those of the
first objects in the answer that was accepted (`isTopic_of_propose`).
-/

namespace DeckPlan.Topics

/-- The text that a model answered in an exchange. -/
def answer? : Exchange → Option String
  | ⟨.gemini .., .ok raw⟩ | ⟨.openai .., .ok raw⟩ => some (Model.Reply.ofRaw raw).text
  | _ => none

/-- Only models were asked. The objects are those of the last answer, and no answer before it can be
read. -/
def IsAccepted (exchanges : List Exchange) (objects : List Fields) : Prop :=
  ∃ refused accepted, exchanges.map answer? = (refused ++ [accepted]).map some ∧
    (∀ text ∈ refused, ∃ fault, readTopics text = .error fault) ∧
    readTopics accepted = .ok objects

variable {env : Environment} {prompt : String} {model : Json} {exchanges : List Exchange}

/-- A reply that is had from a model takes one exchange. -/
theorem map_answer?_of_generate {reply : Model.Reply}
    (h : (Model.generate env prompt model).Dialogue exchanges (.ok reply)) :
    exchanges.map answer? = [some reply.text] := by
  rcases Model.generate_cases env prompt model with ⟨fault, hfail, -⟩ | hgenerate
  · rw [hfail] at h
    cases h.2
  obtain ⟨⟨call, answer⟩, rfl, hasked⟩ := hgenerate _ _ h
  have houtcome := hasked.outcome
  cases call with
  | gemini | openai =>
    cases answer with
    | error fault => cases houtcome
    | ok raw =>
      cases houtcome
      rfl
  | _ => cases houtcome

-- The linter would try to run the reader on a text that is not known.
set_option linter.constructorNameAsVariable false in
/-- The topics that are requested are those of an accepted answer. -/
theorem isAccepted_of_request {objects : List Fields} {usage : Option Model.Usage}
    (h : (request env prompt model).Dialogue exchanges (.ok (objects, usage))) :
    IsAccepted exchanges objects := by
  rcases Program.trace_bind.1 h with
    ⟨fault, -, herror⟩ | ⟨reply, first, later, rfl, hfirst, hread⟩
  · cases herror
  have hanswer := map_answer?_of_generate hfirst
  split at hread
  · next topics htopics =>
    -- The first answer has topics, so no second one is asked for.
    obtain ⟨rfl, hpair⟩ := hread
    cases hpair
    refine ⟨[], reply.text, ?_, fun _ hmem => (nomatch hmem), htopics⟩
    rw [List.append_nil, hanswer]
    rfl
  · next fault hfault =>
    split at hread
    · -- The model is asked a second time.
      rcases Program.trace_bind.1 (Program.dialogue_log_bind.1 hread) with
        ⟨fault', -, herror⟩ | ⟨strict, second, last, rfl, hsecond, hreread⟩
      · cases herror
      split at hreread
      · next topics htopics =>
        obtain ⟨rfl, hpair⟩ := hreread
        cases hpair
        refine ⟨[reply.text], strict.text, ?_, ?_, htopics⟩
        · rw [List.append_nil, List.map_append, hanswer, map_answer?_of_generate hsecond]
          rfl
        · intro text hmem
          obtain rfl := List.mem_singleton.1 hmem
          exact ⟨fault, hfault⟩
      · cases hreread.2
    · cases hread.2

/-- The topics of a report are the first of an accepted answer, cleaned. -/
theorem topics_eq_of_propose {inputs : Guard.Inputs} {limit : Option Int} {report : Report}
    (h : (propose env inputs limit model).Dialogue exchanges (.ok report)) :
    ∃ objects, IsAccepted exchanges objects ∧
      report.topics = (firstTopics limit objects).map normalize := by
  obtain ⟨started, hrequest⟩ := Program.dialogue_readClock_bind.1 h
  rcases Program.trace_bind.1 hrequest with
    ⟨fault, -, herror⟩ | ⟨⟨objects, usage⟩, first, last, rfl, hfirst, hclock⟩
  · cases herror
  obtain ⟨stopped, hlatency⟩ := Program.dialogue_readClock_bind.1 hclock
  rcases Program.trace_ofExcept_bind.1 hlatency with
    ⟨fault, -, -, herror⟩ | ⟨latency, -, rfl, hreport⟩
  · cases herror
  cases hreport
  refine ⟨objects, ?_, rfl⟩
  rw [List.append_nil]
  exact isAccepted_of_request hfirst

/-- Whatever the model answers, a report holds as many topics as there are objects in the accepted
answer, up to the limit; each comes from the object at its place, and all of them fit the schema. -/
theorem isTopic_of_propose {σ : Type} (answer : (action : Action) → σ → action.Answer × σ)
    (state : σ) (env : Environment) (inputs : Guard.Inputs) (limit : Nat) (model : Json)
    {report : Report}
    (h : ((propose env inputs (some (limit : Int)) model).run answer state).1 = .ok report) :
    ∃ objects,
      IsAccepted ((propose env inputs (some (limit : Int)) model).transcript answer state) objects ∧
      report.topics.length = min objects.length limit ∧
      (∀ (index : Nat) topic, report.topics[index]? = some topic →
        ∃ object, objects[index]? = some object ∧ topic = normalize object) ∧
      (∀ topic ∈ report.topics, IsTopic topic) ∧ IsProper (.arr (report.topics.map .obj)) := by
  obtain ⟨objects, haccepted, htopics⟩ := topics_eq_of_propose
    (h ▸ Program.dialogue_transcript answer (propose env inputs (some (limit : Int)) model) state)
  have hfirst : firstTopics (some (limit : Int)) objects = objects.take limit := by
    rw [firstTopics, if_pos (Int.natCast_nonneg limit), Int.toNat_natCast]
  rw [hfirst] at htopics
  have hschema : ∀ topic ∈ report.topics, IsTopic topic := by
    intro topic hmem
    rw [htopics] at hmem
    obtain ⟨object, -, rfl⟩ := List.mem_map.1 hmem
    exact isTopic_normalize object
  refine ⟨objects, haccepted, ?_, fun index topic htopic => ?_, hschema, .arr fun item hitem => ?_⟩
  · rw [htopics, List.length_map, List.length_take, Nat.min_comm]
  · -- A topic stands at the place of the object that it was made of.
    rw [htopics, List.getElem?_map] at htopic
    obtain ⟨object, hobject, rfl⟩ := Option.map_eq_some_iff.1 htopic
    rw [List.getElem?_take] at hobject
    split at hobject
    · exact ⟨object, hobject, rfl⟩
    · cases hobject
  · obtain ⟨topic, htopic, rfl⟩ := List.mem_map.1 hitem
    exact (hschema topic htopic).isProper

/-- A title that is not even a number, a point without a number, and a list for a summary. -/
def oddAnswer : String :=
  "[\x7b\"topic\": NaN, \"dataset\": \x7b\"points\": [\x7b\"label\": 1, \"value\": 2\x7d, " ++
    "\x7b\"label\": 2, \"value\": -Infinity\x7d]\x7d\x7d, \x7b\"summary\": [null]\x7d, \x7b\x7d]"

/-- A run where the first answer cannot be read. -/
def oddRun : Except Fault Report × Bool :=
  (propose { geminiApiKey := some "key" } { subject := "Cars" } (some (2 : Nat))
    (.str "gemini")).run (Model.replyInTurn (.ok { text := some "Sorry." })
      (.ok { text := some oddAnswer })) false

/-- The second answer has three objects. Two of them are kept, the first one with data. -/
theorem isTopic_of_oddRun : ∃ report, oddRun.1 = .ok report ∧
    report.topics.map (fun topic => (Fields.get? topic "dataset").isSome) = [true, false] ∧
    (∀ topic ∈ report.topics, IsTopic topic) ∧ IsProper (.arr (report.topics.map .obj)) := by
  have hdata : (oddRun.1.map fun report => report.topics.map fun topic =>
      (Fields.get? topic "dataset").isSome).toOption = some [true, false] := by
    decide +kernel
  cases hresult : oddRun.1 with
  | error fault =>
    rw [hresult] at hdata
    cases hdata
  | ok report =>
    rw [hresult] at hdata
    obtain ⟨objects, -, -, -, hschema, hproper⟩ := isTopic_of_propose _ _ _ _ _ _ hresult
    exact ⟨report, rfl, Option.some.inj hdata, hschema, hproper⟩

end DeckPlan.Topics
