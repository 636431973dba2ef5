import DeckPlan.Model.Generate
import DeckPlan.Proofs.Outside.Conduct

/-!
# Asking a model

To ask a model is one call, or none if there is no key for it or no name (`generate_cases`). Which
call it is follows from the keys, the prompt and the name (`callFor`, `generate_eq_cases`).
`IsAsked` says that a model is asked a prompt in an exchange, and what comes out of it, and
`prompts` are the prompts of a dialogue, in order.
-/

namespace DeckPlan.Model

/-- The prompt that a call sends to a model. -/
def prompt? : Call → Option String
  | .gemini _ _ prompt | .openai _ prompt => some prompt
  | _ => none

/-- What comes out of an exchange with a model. -/
def outcome? : Exchange → Option (Except Fault Reply)
  | ⟨.gemini .., reply⟩ | ⟨.openai .., reply⟩ => some (reply.map Reply.ofRaw)
  | _ => none

/-- A model is asked the prompt, with this outcome. -/
structure IsAsked (prompt : String) (exchange : Exchange) (outcome : Except Fault Reply) :
    Prop where
  prompt : prompt? exchange.call = some prompt
  outcome : outcome? exchange = some outcome

/-- The prompts that are sent to models, in order. -/
def prompts (exchanges : List Exchange) : List String :=
  exchanges.filterMap fun exchange => prompt? exchange.call

variable {prompt : String}

/-- Prompts follow each other as their exchanges do. -/
theorem prompts_append (first second : List Exchange) :
    prompts (first ++ second) = prompts first ++ prompts second :=
  List.filterMap_append

/-- An exchange in which a prompt is asked adds this prompt. -/
theorem IsAsked.prompts_cons {exchange : Exchange} {outcome : Except Fault Reply}
    (h : IsAsked prompt exchange outcome) (rest : List Exchange) :
    prompts (exchange :: rest) = prompt :: prompts rest :=
  List.filterMap_cons_some h.prompt

/-- Who calls no model sends no prompts. -/
theorem prompts_eq_nil {α : Type} {parties : List Party} {program : Program α}
    (h : program.KeepsTo parties) (hmodel : .model ∉ parties) {exchanges : List Exchange}
    {outcome : Except Fault α} (hdialogue : program.Dialogue exchanges outcome) :
    prompts exchanges = [] := by
  refine List.filterMap_eq_nil_iff.2 fun exchange hmem => ?_
  have hparty : exchange.call.party ∈ parties := h.forall_mem hdialogue exchange hmem
  cases hcall : exchange.call with
  | gemini | openai =>
    rw [hcall] at hparty
    exact absurd hparty hmodel
  | _ => rfl

/-! ## The call to a model -/

/-- The call that asks a model for an answer to a prompt. There is none without a key for the model,
or for a model whose name is no text. -/
def callFor (env : Environment) (prompt : String) (model : Json) : Except Fault Call := do
  let name ← model.text "startswith"
  if isOpenai name then
    match nonempty? env.openaiApiKey with
    | none => throw .noOpenaiKey
    | some _ => return .openai name prompt
  else
    match geminiKey? env with
    | none => throw .noGeminiKey
    | some key => return .gemini key name prompt

/-- A model is asked by the call that there is for it, or not at all. What keeps a model from being
asked is never taken for a service that was asked too often. -/
theorem generate_eq_cases (env : Environment) (prompt : String) (model : Json) :
    (∃ fault, callFor env prompt model = .error fault ∧ generate env prompt model = .fail fault ∧
        isRateLimit (some fault.message) = false) ∨
      (∃ name, callFor env prompt model = .ok (.openai name prompt) ∧
        generate env prompt model =
          (Program.call (.openai name prompt)).bind fun raw => .done (.ofRaw raw)) ∨
      ∃ key name, callFor env prompt model = .ok (.gemini key name prompt) ∧
        generate env prompt model =
          (Program.call (.gemini key name prompt)).bind fun raw => .done (.ofRaw raw) := by
  -- A model that is no text fails with a message about its shape.
  have hnot : ∀ shape : Json.Shape,
      isRateLimit (some (Fault.missingOperation shape "startswith").message) = false := by
    intro shape
    cases shape <;> decide +kernel
  cases model with
  | str name =>
    have hgenerate : generate env prompt (.str name) = ask env prompt name := rfl
    have htext : (Json.str name).text "startswith" = .ok name := rfl
    rw [callFor, hgenerate, ask, htext]
    simp only [bind, Except.bind]
    cases isOpenai name with
    | true =>
      cases nonempty? env.openaiApiKey with
      | none => exact .inl ⟨_, rfl, rfl, by decide +kernel⟩
      | some key => exact .inr (.inl ⟨name, rfl, rfl⟩)
    | false =>
      cases geminiKey? env with
      | none => exact .inl ⟨_, rfl, rfl, by decide +kernel⟩
      | some key => exact .inr (.inr ⟨key, name, rfl, rfl⟩)
  | _ => exact .inl ⟨_, rfl, rfl, hnot _⟩

/-- What keeps a model from being asked does not depend on the prompt, and the call for a prompt
sends this prompt. -/
theorem exists_callFor {env : Environment} {model : Json} {call : Call}
    (h : callFor env prompt model = .ok call) (other : String) :
    ∃ next, callFor env other model = .ok next ∧ prompt? next = some other := by
  cases model with
  | str name =>
    have htext : (Json.str name).text "startswith" = .ok name := rfl
    simp only [callFor, htext, bind, Except.bind] at h ⊢
    revert h
    cases isOpenai name with
    | true =>
      cases nonempty? env.openaiApiKey with
      | none => exact fun h => nomatch h
      | some key => exact fun _ => ⟨_, rfl, rfl⟩
    | false =>
      cases geminiKey? env with
      | none => exact fun h => nomatch h
      | some key => exact fun _ => ⟨_, rfl, rfl⟩
  | _ => cases h

/-- To go on with what a model answers to a call. -/
theorem isAsked_of_dialogue {call : Call} (hcall : prompt? call = some prompt)
    {reading : call.Reply → Reply}
    (hreading : ∀ reply, outcome? ⟨call, reply⟩ = some (reply.map reading))
    {exchanges : List Exchange} {outcome : Except Fault Reply}
    (h : ((Program.call call).bind fun reply => .done (reading reply)).Dialogue exchanges
      outcome) : ∃ exchange, exchanges = [exchange] ∧ IsAsked prompt exchange outcome := by
  rcases Program.dialogue_call_bind.1 h with ⟨fault, rfl, rfl⟩ | ⟨reply, rest, rfl, rfl, rfl⟩
  · exact ⟨_, rfl, hcall, hreading _⟩
  · exact ⟨_, rfl, hcall, hreading _⟩

/-- Either no model can be asked at all, or a model is asked by one call. -/
theorem generate_cases (env : Environment) (prompt : String) (model : Json) :
    (∃ fault, generate env prompt model = .fail fault ∧
      isRateLimit (some fault.message) = false) ∨
      ∀ exchanges outcome, (generate env prompt model).Dialogue exchanges outcome →
        ∃ exchange, exchanges = [exchange] ∧ IsAsked prompt exchange outcome := by
  rcases generate_eq_cases env prompt model with
    ⟨fault, -, hfail, hrate⟩ | ⟨name, -, hgenerate⟩ | ⟨key, name, -, hgenerate⟩
  · exact .inl ⟨fault, hfail, hrate⟩
  · rw [hgenerate]
    exact .inr fun _ _ h => isAsked_of_dialogue rfl (fun _ => rfl) h
  · rw [hgenerate]
    exact .inr fun _ _ h => isAsked_of_dialogue rfl (fun _ => rfl) h

/-- The prompt is the only one that is sent, and it is sent if there is a reply. -/
theorem prompts_of_generate {env : Environment} {model : Json} {exchanges : List Exchange}
    {outcome : Except Fault Reply}
    (h : (generate env prompt model).Dialogue exchanges outcome) :
    prompts exchanges <+: [prompt] ∧
      ∀ reply, outcome = .ok reply → prompts exchanges = [prompt] := by
  rcases generate_cases env prompt model with ⟨fault, hfail, -⟩ | hgenerate
  · rw [hfail] at h
    obtain ⟨rfl, rfl⟩ := h
    exact ⟨List.nil_prefix, fun _ h => nomatch h⟩
  · obtain ⟨exchange, rfl, hasked⟩ := hgenerate _ _ h
    have hprompts := hasked.prompts_cons []
    exact ⟨hprompts ▸ List.prefix_rfl, fun _ _ => hprompts⟩

end DeckPlan.Model
