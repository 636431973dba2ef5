import DeckPlan.Guard.Verdict
import DeckPlan.Proofs.Model.Generate

/-!
# The dialogue about the verdict

A question that is put to a model patiently is put at most twice, with one pause between, and only
the last answer counts (`Asked`). The inputs are rejected if that answer is `TRUE`
(`dialogue_isRejected`).
-/

namespace DeckPlan.Guard

open Model (IsAsked prompt? outcome? prompts)

/-- The dialogue in which a question is put to a model, with its outcome: not at all, once, or twice
with a pause between. It is put twice if the model was asked too often at first. -/
inductive Asked (prompt : String) : List Exchange → Except Fault Model.Reply → Prop
  | never (fault : Fault) : Asked prompt [] (.error fault)
  | once {exchange : Exchange} {outcome : Except Fault Model.Reply} :
      IsAsked prompt exchange outcome →
        (∀ fault, outcome = .error fault → Model.isRateLimit (some fault.message) = false) →
        Asked prompt [exchange] outcome
  | interrupted {first : Exchange} {fault : Fault} (interruption : Fault) :
      IsAsked prompt first (.error fault) → Model.isRateLimit (some fault.message) = true →
        Asked prompt [first, ⟨.sleep retryPause, .error interruption⟩] (.error interruption)
  | twice {first second : Exchange} {fault : Fault} {outcome : Except Fault Model.Reply} :
      IsAsked prompt first (.error fault) → Model.isRateLimit (some fault.message) = true →
        IsAsked prompt second outcome →
        Asked prompt [first, ⟨.sleep retryPause, .ok ()⟩, second] outcome

variable {prompt : String} {exchanges : List Exchange}

/-- Whoever asks patiently puts the question at most twice. -/
theorem asked_of_dialogue {env : Environment} {model : Json}
    {outcome : Except Fault Model.Reply}
    (h : (askPatiently env prompt model).Dialogue exchanges outcome) :
    Asked prompt exchanges outcome := by
  rcases Model.generate_cases env prompt model with ⟨fault, hfail, hrate⟩ | hgenerate
  · -- No model can be asked, and there is no second try.
    rw [askPatiently, hfail] at h
    rcases Program.trace_recover.1 h with
      ⟨value, ⟨-, hvalue⟩, -⟩ | ⟨_, first, second, rfl, ⟨rfl, hfault⟩, hsecond⟩
    · cases hvalue
    · cases hfault
      rw [if_neg (by simp [hrate])] at hsecond
      obtain ⟨rfl, rfl⟩ := hsecond
      exact .never fault
  rcases Program.trace_recover.1 h with
    ⟨value, hvalue, rfl⟩ | ⟨fault, first, second, rfl, hfirst, hsecond⟩
  · obtain ⟨exchange, rfl, hasked⟩ := hgenerate _ _ hvalue
    exact .once hasked fun fault hfault => nomatch hfault
  obtain ⟨exchange, rfl, hasked⟩ := hgenerate _ _ hfirst
  -- The model is asked again only if it was asked too often, and the pause may fail too.
  split at hsecond
  · next hrate =>
    rcases Program.dialogue_call_bind.1 hsecond with
      ⟨interruption, rfl, rfl⟩ | ⟨⟨⟩, rest, rfl, hagain⟩
    · exact .interrupted interruption hasked hrate
    · obtain ⟨exchange, rfl, hlast⟩ := hgenerate _ _ hagain
      exact .twice hasked hrate hlast
  · next hrate =>
    obtain ⟨rfl, rfl⟩ := hsecond
    refine .once hasked fun fault hfault => ?_
    obtain rfl := Except.error.inj hfault
    simpa using hrate

namespace Asked

variable {outcome : Except Fault Model.Reply}

/-- The question is the only prompt, and it is sent at most twice. -/
theorem prompts_eq (h : Asked prompt exchanges outcome) :
    ∃ n ≤ 2, prompts exchanges = List.replicate n prompt := by
  cases h with
  | never => exact ⟨0, by omega, rfl⟩
  | once hasked => exact ⟨1, by omega, hasked.prompts_cons []⟩
  | interrupted _ hfirst => exact ⟨1, by omega, hfirst.prompts_cons _⟩
  | twice hfirst _ hsecond =>
    refine ⟨2, by omega, (hfirst.prompts_cons _).trans ?_⟩
    -- The pause sends no prompt.
    exact congrArg (prompt :: ·) (hsecond.prompts_cons [])

/-- An answer is the last exchange and the outcome. Before it, the question may have been put once
in vain, with one pause after it. -/
theorem of_answer (h : Asked prompt exchanges outcome) {last : Exchange} {reply : Model.Reply}
    (hmem : last ∈ exchanges) (hlast : outcome? last = some (.ok reply)) :
    outcome = .ok reply ∧ (exchanges = [last] ∨ ∃ first, prompt? first.call = some prompt ∧
      exchanges = [first, ⟨.sleep retryPause, .ok ()⟩, last]) := by
  -- Neither an exchange that failed nor a pause is an answer.
  have hnot : ∀ {exchange : Exchange} {fault : Fault}, IsAsked prompt exchange (.error fault) →
      last ≠ exchange := by
    rintro exchange fault hasked rfl
    rw [hasked.outcome] at hlast
    cases hlast
  have hpause : ∀ {answer : Except Fault Unit}, last ≠ ⟨.sleep retryPause, answer⟩ := by
    rintro answer rfl
    cases hlast
  cases h with
  | never => cases hmem
  | once hasked =>
    obtain rfl := List.mem_singleton.1 hmem
    rw [hasked.outcome] at hlast
    exact ⟨Option.some.inj hlast, .inl rfl⟩
  | interrupted _ hfirst =>
    simp [hnot hfirst, hpause] at hmem
  | twice hfirst _ hsecond =>
    simp only [List.mem_cons, hnot hfirst, hpause, List.not_mem_nil, false_or, or_false] at hmem
    subst hmem
    rw [hsecond.outcome] at hlast
    exact ⟨Option.some.inj hlast, .inr ⟨_, hfirst.prompt, rfl⟩⟩

end Asked

/-- The verdict is read off the answer. -/
theorem dialogue_isRejected {env : Environment} {inputs : Inputs} {model : Json}
    {outcome : Except Fault Bool}
    (h : (isRejected env inputs model).Dialogue exchanges outcome) :
    ∃ answer, Asked (verdictPrompt inputs) exchanges answer ∧
      outcome = answer.bind fun reply => readVerdict reply.text := by
  obtain ⟨answer, hasked, houtcome⟩ := Program.trace_bind_ofExcept.1 h
  exact ⟨answer, asked_of_dialogue hasked, houtcome⟩

end DeckPlan.Guard
