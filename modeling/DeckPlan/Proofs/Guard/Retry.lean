import DeckPlan.Guard.Verdict
import DeckPlan.Proofs.Model.Attempt
import DeckPlan.Proofs.Text.Occurrence

/-!
# One more try after a pause

The question about the inputs is put to the model once, and once more after a pause if the model was
asked too often (`IsPatient`). The last attempt alone decides about the outcome (`IsVerdict`): an
answer that is no verdict is not tried again.

`isPatient_isRejected` says both of every run in which the pause itself does not fail.
-/

namespace DeckPlan.Guard

open Model (Attempt geminiUser)

/-- The message is that of a service that was asked too often, in whatever letters. -/
def IsTooOften (fault : Fault) : Prop :=
  "429".toList <:+: Text.upper fault.message.toList ∨
    "RESOURCE_EXHAUSTED".toList <:+: Text.upper fault.message.toList

/-- The test for a model that is asked too often finds exactly the two marks in a message. -/
theorem isRateLimit_iff {fault : Fault} :
    Model.isRateLimit (some fault.message) = true ↔ IsTooOften fault := by
  rw [Model.isRateLimit, Bool.or_eq_true, Text.occursIn_iff, Text.occursIn_iff]
  rfl

/-- The pause between two attempts. -/
def pause : Event :=
  ⟨.call (.sleep retryPause), .ok ()⟩

/-- The verdict in an answer, or what stands in its place. -/
def verdictIn (reply : Model.Reply) : String :=
  Text.uppered (Text.trimmed reply.text)

section Attempts

variable {env : Environment} {prompt : String} {model : Json} {inputs : Inputs}

/-- The events are those of one attempt, or of two with a pause between. There is a second attempt
exactly if the first one fails because the model was asked too often. -/
structure IsPatient (events : List Event) (attempts : List (Attempt env prompt model)) : Prop where
  events_eq : events = [pause].intercalate (attempts.map Attempt.events)
  length_eq : attempts.length = 1 ∨ attempts.length = 2
  again_iff : attempts.length = 2 ↔ ∃ first fault, attempts.head? = some first ∧
    first.outcome = .error fault ∧ IsTooOften fault

/-- The word for a verdict. -/
def wordFor : Bool → String
  | true => "TRUE"
  | false => "FALSE"

/-- What comes out of a question whose last attempt has the outcome `last`. -/
structure IsVerdict (last : Except Fault Model.Reply) (outcome : Except Fault Bool) : Prop where
  /-- The two words lead to a verdict, and nothing else does. -/
  ok_iff : ∀ verdict, outcome = .ok verdict ↔
    ∃ reply, last = .ok reply ∧ verdictIn reply = wordFor verdict
  /-- Any other answer, and no other outcome, is quoted in the message. -/
  other_iff : ∀ reply, last = .ok reply →
    ((∀ verdict, verdictIn reply ≠ wordFor verdict) ↔
      ∃ fault, outcome = .error fault ∧ fault.kind = .value ∧
        fault.message = "unexpected classifier output: " ++ Text.quoted (verdictIn reply))
  error : ∀ fault, last = .error fault → outcome = .error fault
  /-- No answer leads to the message that stands behind all attempts. -/
  settled : ∀ fault, outcome = .error fault → fault.message = "classifier failed after retry" →
    last = .error fault

/-- The two verdicts have different words. -/
theorem wordFor_inj {verdict other : Bool} (h : wordFor verdict = wordFor other) :
    verdict = other := by
  revert verdict other
  decide

/-- An answer is one of the two words or none of them. -/
theorem readVerdict_cases (reply : Model.Reply) :
    (∃ verdict, verdictIn reply = wordFor verdict ∧ readVerdict reply.text = .ok verdict) ∨
      (∀ verdict, verdictIn reply ≠ wordFor verdict) ∧
        readVerdict reply.text = .error (.unexpectedVerdict (verdictIn reply)) := by
  have hread : readVerdict reply.text =
      if verdictIn reply = wordFor true then .ok true
      else if verdictIn reply = wordFor false then .ok false
      else .error (.unexpectedVerdict (verdictIn reply)) := rfl
  rw [hread]
  by_cases htrue : verdictIn reply = wordFor true
  · exact .inl ⟨true, htrue, if_pos htrue⟩
  rw [if_neg htrue]
  by_cases hfalse : verdictIn reply = wordFor false
  · exact .inl ⟨false, hfalse, if_pos hfalse⟩
  · exact .inr ⟨Bool.rec hfalse htrue, if_neg hfalse⟩

/-- A verdict that is neither of the two words is not told as a second failure. -/
theorem message_unexpectedVerdict_ne (verdict : String) :
    (Fault.unexpectedVerdict verdict).message ≠ "classifier failed after retry" := by
  intro h
  have hmessage : (Fault.unexpectedVerdict verdict).message =
      "unexpected classifier output: " ++ Text.quoted verdict := rfl
  have hfirst : (Fault.unexpectedVerdict verdict).message.toList.head? = some 'u' := by
    rw [hmessage, String.toList_append]
    simp
  rw [h] at hfirst
  exact absurd hfirst (by decide)

/-- Without a reply there is no verdict. -/
theorem isVerdict_error (fault : Fault) : IsVerdict (.error fault) (.error fault) where
  ok_iff _ := ⟨fun h => (nomatch h), fun ⟨_, h, _⟩ => nomatch h⟩
  other_iff _ h := nomatch h
  error _ h := congrArg _ (Except.error.inj h)
  settled _ h _ := congrArg _ (Except.error.inj h)

/-- One of the two words is the verdict for which it stands. -/
theorem isVerdict_word {reply : Model.Reply} {verdict : Bool}
    (hword : verdictIn reply = wordFor verdict) : IsVerdict (.ok reply) (.ok verdict) where
  ok_iff other := by
    constructor
    · intro h
      obtain rfl := Except.ok.inj h
      exact ⟨reply, rfl, hword⟩
    · rintro ⟨answer, hanswer, hother⟩
      obtain rfl := Except.ok.inj hanswer
      exact congrArg _ (wordFor_inj (hword.symm.trans hother))
  other_iff answer hanswer := by
    obtain rfl := Except.ok.inj hanswer
    refine iff_of_false (fun hnot => hnot verdict hword) ?_
    rintro ⟨fault, h, -⟩
    cases h
  error _ h := nomatch h
  settled _ h := nomatch h

/-- Any other answer is quoted. -/
theorem isVerdict_unexpected {reply : Model.Reply}
    (hnone : ∀ verdict, verdictIn reply ≠ wordFor verdict) :
    IsVerdict (.ok reply) (.error (.unexpectedVerdict (verdictIn reply))) where
  ok_iff other := by
    refine iff_of_false (fun h => nomatch h) ?_
    rintro ⟨answer, hanswer, hother⟩
    obtain rfl := Except.ok.inj hanswer
    exact hnone other hother
  other_iff answer hanswer := by
    obtain rfl := Except.ok.inj hanswer
    exact iff_of_true hnone ⟨_, rfl, rfl, rfl⟩
  error _ h := nomatch h
  settled fault h hmessage := by
    obtain rfl := Except.error.inj h
    exact absurd hmessage (message_unexpectedVerdict_ne _)

/-- With a reply the verdict is the one that is read in it. -/
theorem isVerdict_ok (reply : Model.Reply) : IsVerdict (.ok reply) (readVerdict reply.text) := by
  rcases readVerdict_cases reply with ⟨verdict, hword, hread⟩ | ⟨hnone, hread⟩ <;> rw [hread]
  · exact isVerdict_word hword
  · exact isVerdict_unexpected hnone

/-! ## Every run -/

/-- The events of a patient question are those of its attempts, and the last one is its outcome. -/
theorem isPatient_of_course {events : List Event} {outcome : Except Fault Model.Reply}
    (h : (askPatiently env prompt model).Course events outcome)
    (hpause : ∀ seconds fault, ⟨.call (.sleep seconds), .error fault⟩ ∉ events) :
    ∃ attempts : List (Attempt env prompt model), IsPatient events attempts ∧
      ∃ last, attempts.getLast? = some last ∧ last.outcome = outcome := by
  have honce : ∀ (attempt : Attempt env prompt model),
      (∀ fault, attempt.outcome = .error fault → ¬ IsTooOften fault) →
        IsPatient attempt.events [attempt] := by
    intro attempt hnot
    refine ⟨by simp [List.intercalate], .inl rfl, iff_of_false (by simp) ?_⟩
    rintro ⟨first, fault, hfirst, herror, hoften⟩
    obtain rfl := Option.some.inj hfirst
    exact hnot fault herror hoften
  rcases Program.trace_recover.1 h with
    ⟨reply, hreply, rfl⟩ | ⟨fault, first, second, rfl, hfirst, hsecond⟩
  · -- The first attempt has an answer, whatever it says.
    obtain ⟨attempt, rfl, hanswer⟩ := Model.exists_attempt hreply
    refine ⟨[attempt], honce attempt fun fault herror => ?_, attempt, rfl, hanswer⟩
    rw [hanswer] at herror
    cases herror
  obtain ⟨attempt, rfl, hfault⟩ := Model.exists_attempt hfirst
  split at hsecond
  · next hrate =>
    -- The pause goes well, so there is a second attempt.
    rcases Program.trace_bind.1 hsecond with
      ⟨interruption, hslept, -⟩ | ⟨⟨⟩, slept, rest, rfl, hslept, hagain⟩
    · obtain rfl := Program.course_call.1 hslept
      exact absurd (List.mem_append_right _ List.mem_cons_self) (hpause _ _)
    obtain rfl := Program.course_call.1 hslept
    obtain ⟨last, rfl, hlast⟩ := Model.exists_attempt hagain
    refine ⟨[attempt, last], ⟨?_, .inr rfl, iff_of_true rfl ?_⟩, last, rfl, hlast⟩
    · simp [List.intercalate, pause]
    · exact ⟨attempt, fault, rfl, hfault, isRateLimit_iff.1 hrate⟩
  · next hrate =>
    obtain ⟨rfl, rfl⟩ := hsecond
    rw [List.append_nil]
    refine ⟨[attempt], honce attempt fun other herror => ?_, attempt, rfl, hfault⟩
    obtain rfl := Except.error.inj (hfault.symm.trans herror)
    exact mt isRateLimit_iff.2 hrate

end Attempts

/-- Every question about the inputs in whose run the pause does not fail is put patiently, and the
last attempt decides. -/
theorem isPatient_isRejected {σ : Type} (answer : (action : Action) → σ → action.Answer × σ)
    (state : σ) (env : Environment) (inputs : Inputs) (model : Json)
    (hpause : ∀ seconds fault, ⟨.call (.sleep seconds), .error fault⟩ ∉
      (isRejected env inputs model).events answer state) :
    ∃ attempts : List (Attempt env (verdictPrompt inputs) model),
      IsPatient ((isRejected env inputs model).events answer state) attempts ∧
        ∃ last, attempts.getLast? = some last ∧
          IsVerdict last.outcome ((isRejected env inputs model).run answer state).1 := by
  obtain ⟨result, hasked, houtcome⟩ := Program.trace_bind_ofExcept.1
    (Program.course_events answer (isRejected env inputs model) state)
  obtain ⟨attempts, hpatient, last, hlast, rfl⟩ := isPatient_of_course hasked hpause
  refine ⟨attempts, hpatient, last, hlast, ?_⟩
  rw [houtcome]
  cases last.outcome with
  | error fault => exact isVerdict_error fault
  | ok reply =>
    simp only [Except.bind]
    exact isVerdict_ok reply

/-- A model that is asked too often at first and then finds fault with the inputs. -/
def rejectLater : (action : Action) → Bool → action.Answer × Bool :=
  Model.replyInTurn (.error (.reported .runtime "Error 429: resource_exhausted"))
    (.ok { text := some " true\n" })

/-- The events of a question that is put twice. -/
def busyEvents : List Event :=
  (isRejected geminiUser { subject := "Cars" } (.str "gemini")).events rejectLater false

/-- The pause in a question that is put twice does not fail, and the second attempt decides. -/
theorem isPatient_busyEvents :
    (∀ seconds fault, ⟨.call (.sleep seconds), .error fault⟩ ∉ busyEvents) ∧
      ∃ attempts : List (Attempt geminiUser (verdictPrompt { subject := "Cars" }) (.str "gemini")),
        IsPatient busyEvents attempts ∧ ∃ last, attempts.getLast? = some last ∧
          IsVerdict last.outcome
            ((isRejected geminiUser { subject := "Cars" } (.str "gemini")).run rejectLater false).1 := by
  have hpause : ∀ seconds fault, ⟨.call (.sleep seconds), .error fault⟩ ∉ busyEvents := by
    intro seconds fault hmem
    have hslept : ∀ event ∈ busyEvents, event ≠ ⟨.call (.sleep seconds), .error fault⟩ := by
      refine Program.forall_mem_events rejectLater (fun action again heq => ?_) _ _
      obtain rfl : action = .call (.sleep seconds) := congrArg Event.action heq
      cases heq
    exact hslept _ hmem rfl
  exact ⟨hpause, isPatient_isRejected rejectLater false geminiUser _ _ hpause⟩

/-- The second attempt is made, and its answer is taken for a verdict. -/
example : (callsIn busyEvents).length = 3 ∧
    ((isRejected geminiUser { subject := "Cars" } (.str "gemini")).run rejectLater false).1.toOption =
      some true := by
  decide +kernel

end DeckPlan.Guard
