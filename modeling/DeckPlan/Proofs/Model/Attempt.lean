import DeckPlan.Proofs.Model.Generate
import DeckPlan.Proofs.Outside.Course

/-!
# Attempts to ask a model

An attempt makes the one call that the keys, the prompt and the name of the model lead to
(`callFor`), or it is refused before any call is made. `Attempt` holds what happens in it and what
comes out of it. To ask a model is one attempt (`exists_attempt`).
-/

namespace DeckPlan.Model

/-- What happens when a model is asked, and what comes out of it. -/
inductive Asks (env : Environment) (prompt : String) (model : Json) :
    List Event → Except Fault Reply → Prop
  | refused {fault : Fault} :
      callFor env prompt model = .error fault → Asks env prompt model [] (.error fault)
  | called {call : Call} (reply : Except Fault call.Reply) {outcome : Except Fault Reply} :
      callFor env prompt model = .ok call → outcome? ⟨call, reply⟩ = some outcome →
        Asks env prompt model [⟨.call call, reply⟩] outcome

/-- An attempt to have an answer to a prompt from a model. -/
structure Attempt (env : Environment) (prompt : String) (model : Json) where
  events : List Event
  outcome : Except Fault Reply
  asks : Asks env prompt model events outcome

variable {env : Environment} {prompt : String} {model : Json} {events : List Event}
  {outcome : Except Fault Reply}

/-- To go on with what a model answers to a call. -/
theorem asks_of_call {call : Call} (hcall : callFor env prompt model = .ok call)
    {reading : call.Reply → Reply}
    (hreading : ∀ reply, outcome? ⟨call, reply⟩ = some (reply.map reading))
    (h : ((Program.call call).bind fun reply => .done (reading reply)).Course events outcome) :
    Asks env prompt model events outcome := by
  change ((Program.call call).bind fun reply => .ofExcept (.ok (reading reply))).Course events
    outcome at h
  obtain ⟨reply, hmade, rfl⟩ := Program.trace_bind_ofExcept.1 h
  obtain rfl := Program.course_call.1 hmade
  refine .called reply hcall ((hreading reply).trans ?_)
  cases reply <;> rfl

/-- To ask a model is an attempt. -/
theorem exists_attempt (h : (generate env prompt model).Course events outcome) :
    ∃ attempt : Attempt env prompt model, attempt.events = events ∧ attempt.outcome = outcome := by
  have hasks : Asks env prompt model events outcome := by
    rcases generate_eq_cases env prompt model with
      ⟨fault, hcall, hgenerate, -⟩ | ⟨name, hcall, hgenerate⟩ | ⟨key, name, hcall, hgenerate⟩ <;>
      rw [hgenerate] at h
    · obtain ⟨rfl, rfl⟩ := h
      exact .refused hcall
    · exact asks_of_call hcall (fun _ => rfl) h
    · exact asks_of_call hcall (fun _ => rfl) h
  exact ⟨⟨events, outcome, hasks⟩, rfl, rfl⟩

namespace Attempt

/-- An attempt that has a reply made a call. -/
theorem callFor_eq_ok (attempt : Attempt env prompt model) {reply : Reply}
    (h : attempt.outcome = .ok reply) : ∃ call, callFor env prompt model = .ok call := by
  obtain ⟨events, outcome, hasks⟩ := attempt
  cases hasks with
  | refused => cases h
  | called _ hcall => exact ⟨_, hcall⟩

/-- Where there is a call for one prompt, an attempt with another one is a call with this other
one. -/
theorem exists_call (attempt : Attempt env prompt model) {first : String} {call : Call}
    (h : callFor env first model = .ok call) :
    ∃ next reply, attempt.events = [⟨.call next, reply⟩] ∧ prompt? next = some prompt := by
  obtain ⟨next, hnext, hprompt⟩ := exists_callFor h prompt
  obtain ⟨events, outcome, hasks⟩ := attempt
  cases hasks with
  | refused hrefused =>
    rw [hnext] at hrefused
    cases hrefused
  | called reply hcall =>
    obtain rfl := Except.ok.inj (hnext.symm.trans hcall)
    exact ⟨_, reply, rfl, hprompt⟩

end Attempt

/-- The keys of a user who asks Gemini models. -/
def geminiUser : Environment where
  geminiApiKey := some "key"

/-- An outside where the first question to a model is replied to in one way and all later ones in
another. All else goes well and tells nothing. -/
def replyInTurn (first later : Except Fault ModelReply) :
    (action : Action) → Bool → action.Answer × Bool :=
  answerCalls fun
    | .gemini .., again | .openai .., again => (if again then later else first, true)
    | request, again => (request.quietReply, again)

end DeckPlan.Model
