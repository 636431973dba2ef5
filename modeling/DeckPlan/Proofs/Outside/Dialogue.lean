import DeckPlan.Outside.World
import DeckPlan.Proofs.Outside.Trace

/-!
# Dialogues

A dialogue is what a program and the outside say to each other: the calls of the program in order,
each with its reply. It is what is seen of a program when only its calls are looked at.

* `Program.transcript` is the dialogue of one run, for any way to answer the program.
* `Program.Dialogue` says which dialogues a program can have at all, and with which outcome, when
  nothing is known of the outside. What is answered to the actions that are no calls is left open.

The lemmas from `dialogue_call` on say what is seen of the actions that programs consist of;
composed programs are taken apart as for every view.
-/

namespace DeckPlan

/-- A call with its reply. -/
structure Exchange where
  call : Call
  reply : Except Fault call.Reply

/-- The exchanges of one action: a call is one, and all other actions have none. -/
def Action.exchanges : View Exchange
  | .call request, reply => [⟨request, reply⟩]
  | _, _ => []

namespace Program

variable {α β σ : Type}

/-- The exchanges of a run where `answer` answers the actions from a state. -/
abbrev transcript (answer : (action : Action) → σ → action.Answer × σ) :
    Program α → σ → List Exchange :=
  seen Action.exchanges answer

/-- The program has these exchanges and this outcome if the outside gives these replies. -/
abbrev Dialogue : Program α → List Exchange → Except Fault α → Prop :=
  Trace Action.exchanges

/-- Every run is one of the dialogues of the program. -/
theorem dialogue_transcript (answer : (action : Action) → σ → action.Answer × σ)
    (program : Program α) (state : σ) :
    program.Dialogue (program.transcript answer state) (program.run answer state).1 :=
  trace_seen answer program state

/-- What holds of every answer to a call holds of every exchange of a run. -/
theorem forall_mem_transcript {answer : (action : Action) → σ → action.Answer × σ}
    {P : Exchange → Prop} (h : ∀ request state, P ⟨request, (answer (.call request) state).1⟩)
    (program : Program α) (state : σ) :
    ∀ exchange ∈ program.transcript answer state, P exchange := by
  refine forall_mem_seen answer (fun action state exchange hmem => ?_) program state
  cases action with
  | call request =>
    obtain rfl := List.mem_singleton.1 hmem
    exact h request state
  | _ => cases hmem

section Actions

variable {exchanges : List Exchange}

/-- A call is one exchange, and its reply is the outcome. -/
@[simp]
theorem dialogue_call {request : Call} {outcome : Except Fault request.Reply} :
    (call request).Dialogue exchanges outcome ↔ exchanges = [⟨request, outcome⟩] := by
  constructor
  · intro h
    obtain ⟨reply, rfl, rfl⟩ := trace_take.1 h
    rfl
  · rintro rfl
    exact trace_take.2 ⟨outcome, rfl, rfl⟩

/-- A program that goes on after a call is over if the call fails. -/
theorem dialogue_call_bind {request : Call} {next : request.Reply → Program β}
    {outcome : Except Fault β} :
    ((call request).bind next).Dialogue exchanges outcome ↔
      (∃ fault, exchanges = [⟨request, .error fault⟩] ∧ outcome = .error fault) ∨
        ∃ reply rest, exchanges = ⟨request, .ok reply⟩ :: rest ∧
          (next reply).Dialogue rest outcome :=
  trace_answer_bind

/-- A program that goes on after the attempt of a call sees the reply, be it a failure or not. -/
theorem dialogue_attempt_call_bind {request : Call}
    {next : Except Fault request.Reply → Program β} {outcome : Except Fault β} :
    ((call request).attempt.bind next).Dialogue exchanges outcome ↔
      ∃ reply rest, exchanges = ⟨request, reply⟩ :: rest ∧ (next reply).Dialogue rest outcome := by
  simp only [trace_attempt_bind, dialogue_call]
  constructor
  · rintro ⟨reply, first, second, rfl, rfl, hnext⟩
    exact ⟨reply, second, rfl, hnext⟩
  · rintro ⟨reply, rest, rfl, hnext⟩
    exact ⟨reply, _, rest, rfl, rfl, hnext⟩

/-- The answer to an action that is no call and cannot fail may be any, and is not seen. -/
theorem dialogue_unseen_bind {action : Action} {next : action.Value → Program β}
    {value : action.Answer → action.Value}
    (hunseen : ∀ answer, action.exchanges answer = [])
    (hvalue : ∀ answer, action.result answer = .ok (value answer)) {outcome : Except Fault β} :
    ((take action).bind next).Dialogue exchanges outcome ↔
      ∃ answer, (next (value answer)).Dialogue exchanges outcome := by
  simp [trace_take_bind, hunseen, hvalue, ofExcept, bind]

/-- A line for the user is not seen. -/
@[simp]
theorem dialogue_log {line : String} {outcome : Except Fault Unit} :
    (log line).Dialogue exchanges outcome ↔ exchanges = [] ∧ outcome = .ok () :=
  trace_log

/-- Lines for the user do not show in a dialogue. -/
theorem dialogue_log_bind {line : String} {next : Unit → Program β} {outcome : Except Fault β} :
    ((log line).bind next).Dialogue exchanges outcome ↔ (next ()).Dialogue exchanges outcome :=
  trace_log_bind.trans ⟨fun ⟨_, heq, h⟩ => heq ▸ h, fun h => ⟨exchanges, rfl, h⟩⟩

/-- Any suffix may be drawn. -/
theorem dialogue_drawSuffix_bind {next : String → Program β} {outcome : Except Fault β} :
    (drawSuffix.bind next).Dialogue exchanges outcome ↔
      ∃ suffix, (next suffix).Dialogue exchanges outcome :=
  dialogue_unseen_bind (fun _ => rfl) fun _ => rfl

/-- The clock may show any time. -/
theorem dialogue_readClock_bind {next : Binary64 → Program β} {outcome : Except Fault β} :
    (readClock.bind next).Dialogue exchanges outcome ↔
      ∃ time, (next time).Dialogue exchanges outcome :=
  dialogue_unseen_bind (fun _ => rfl) fun _ => rfl

/-- A result is printed without any exchange, or the failure to print it ends the program. -/
theorem dialogue_print_bind {text : String} {next : Unit → Program β} {outcome : Except Fault β} :
    ((print text).bind next).Dialogue exchanges outcome ↔
      (∃ fault, exchanges = [] ∧ outcome = .error fault) ∨
        (next ()).Dialogue exchanges outcome := by
  constructor
  · rintro ⟨answer, rest, rfl, h⟩
    cases answer with
    | error fault => exact .inl ⟨fault, h⟩
    | ok => exact .inr h
  · rintro (⟨fault, h⟩ | h)
    · exact ⟨.error fault, exchanges, rfl, h⟩
    · exact ⟨.ok (), exchanges, rfl, h⟩

end Actions

end Program

/-- The script in which nothing is prepared: every call succeeds and tells nothing. -/
def World.silent : World where
  replies _ := []
  fallback
    | .gemini | .openai | .webGet | .webHead => {}
    | .sheetsGet | .sheetsUpdate | .valuesClear | .valuesUpdate | .slidesGet | .slidesUpdate =>
      .obj []
    | .loadServiceAccount | .actFor | .refreshLogin | .logIn => ⟨""⟩
    | .loadLogin => { credentials := ⟨""⟩ }
    | .sleep | .loadClientSecrets | .buildClient => ()
  clock := []
  suffix _ := "00000000"
  keptText _ := ""

/-- What the silent script replies to a call. -/
def Call.quietReply (request : Call) : Except Fault request.Reply :=
  .ok (World.silent.fallback request.kind)

/-- The outside that replies to calls in the given way, from a state. All other actions it answers
as the silent script does. -/
def answerCalls {σ : Type} (reply : (request : Call) → σ → Except Fault request.Reply × σ) :
    (action : Action) → σ → action.Answer × σ
  | .call request, state => reply request state
  | action, state => ((World.answer action World.silent).1, state)

end DeckPlan
