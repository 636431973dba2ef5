import DeckPlan.Proofs.CommandLine.Parties
import DeckPlan.Proofs.Guard.Inputs
import DeckPlan.Proofs.Model.Attempt
import DeckPlan.Proofs.Guard.Verdict

/-!
# The gate

Nothing is asked outside for inputs that are refused, and nothing but the verdict for inputs that a
model rejects; in both cases nothing is printed and the run is given up. Models are sent the
question about the inputs, at most twice, and then the request for topics and its stricter form, at
most once each (`IsGated`, `isGated_run`).

An empty number of topics fails the run before the inputs are looked at, and it is not given up
then (`not_isGivenUp_of_emptyNumber`).
-/

namespace DeckPlan

open Guard (verdictPrompt retryPause Asked)
open Model (IsAsked prompt? outcome? prompts)

/-! ## The requests for topics -/

namespace Topics

variable {env : Environment} {prompt : String} {model : Json} {exchanges : List Exchange}

-- The linter would try to run the reader on a text that is not known.
set_option linter.constructorNameAsVariable false in
/-- The request is sent at most once, and after it its stricter form at most once. -/
theorem prompts_of_request {outcome : Except Fault (List Fields × Option Model.Usage)}
    (h : (request env prompt model).Dialogue exchanges outcome) :
    prompts exchanges <+: [prompt, prompt ++ strictSuffix] := by
  rcases Program.trace_bind.1 h with
    ⟨fault, hfirst, -⟩ | ⟨reply, first, later, rfl, hfirst, hread⟩
  · exact (Model.prompts_of_generate hfirst).1.trans (by simp)
  have hsent : prompts first = [prompt] := (Model.prompts_of_generate hfirst).2 reply rfl
  -- A reply that is read ends the dialogue, and so does one that no stricter form is sent for.
  have hstrict : prompts later <+: [prompt ++ strictSuffix] := by
    split at hread
    · obtain ⟨rfl, -⟩ := hread
      exact List.nil_prefix
    · split at hread
      · rcases Program.trace_bind.1 (Program.dialogue_log_bind.1 hread) with
          ⟨fault, hsecond, -⟩ | ⟨strict, second, last, rfl, hsecond, hreread⟩
        · exact (Model.prompts_of_generate hsecond).1
        have hlast : last = [] := by
          split at hreread
          · exact hreread.1
          · exact hreread.1
        rw [hlast, List.append_nil]
        exact (Model.prompts_of_generate hsecond).1
      · obtain ⟨rfl, -⟩ := hread
        exact List.nil_prefix
  rw [Model.prompts_append, hsent]
  exact List.cons_prefix_cons.2 ⟨rfl, hstrict⟩

/-- At most two prompts ask for topics, the second of which adds that the answer has to be strict.
-/
theorem prompts_of_propose {inputs : Guard.Inputs} {limit : Option Int}
    {outcome : Except Fault Report}
    (h : (propose env inputs limit model).Dialogue exchanges outcome) :
    prompts exchanges <+: [topicPrompt inputs limit, topicPrompt inputs limit ++ strictSuffix] := by
  obtain ⟨started, hrequest⟩ := Program.dialogue_readClock_bind.1 h
  rcases Program.trace_bind.1 hrequest with
    ⟨fault, hfirst, -⟩ | ⟨answer, first, last, rfl, hfirst, hclock⟩
  · exact prompts_of_request hfirst
  obtain ⟨stopped, hlatency⟩ := Program.dialogue_readClock_bind.1 hclock
  have hlast : last = [] := by
    rcases Program.trace_ofExcept_bind.1 hlatency with ⟨_, -, h, -⟩ | ⟨_, -, h, -⟩
    · exact h
    · exact h
  rw [hlast, List.append_nil]
  exact prompts_of_request hfirst

/-- Between one and five topics are asked for, whatever the number in the arguments. -/
theorem clampTopics_mem (count : Int) : 1 ≤ clampTopics count ∧ clampTopics count ≤ 5 := by
  rw [clampTopics]
  split
  · decide
  · next hcount =>
    simp [maxTopics] at hcount
    omega

end Topics

namespace CommandLine

variable {env : Environment} {options : Options} {inputs : Guard.Inputs}
  {exchanges : List Exchange}

/-! ## The verdict -/

/-- A model answers `TRUE`, in any letter case and perhaps with blanks around it. -/
def SaysTrue (answer : Except Fault Model.Reply) : Prop :=
  ∃ reply, answer = .ok reply ∧ Text.uppered (Text.trimmed reply.text) = "TRUE"

/-- A reply says that the inputs are refused exactly if the verdict that is read in it does. -/
theorem saysTrue_iff {answer : Except Fault Model.Reply} :
    SaysTrue answer ↔ (answer.bind fun reply => Guard.readVerdict reply.text) = .ok true := by
  cases answer with
  | error fault => simp [SaysTrue, Except.bind]
  | ok reply =>
    simp only [SaysTrue, Except.bind, Guard.readVerdict, Except.ok.injEq, exists_eq_left']
    split
    · next h => simp [h]
    · next h => split <;> simp [h]

/-- A model that gives no verdict does not reject the inputs. -/
theorem dialogue_screen {outcome : Except Fault Bool}
    (h : (screen env options inputs).Dialogue exchanges outcome) :
    ∃ answer rejected, Asked (verdictPrompt inputs) exchanges answer ∧ outcome = .ok rejected ∧
      (rejected = true ↔ SaysTrue answer) := by
  simp only [saysTrue_iff]
  rcases Program.trace_recover.1 h with
    ⟨rejected, hverdict, rfl⟩ | ⟨fault, first, second, rfl, hverdict, hend⟩
  · obtain ⟨answer, hasked, hanswer⟩ := Guard.dialogue_isRejected hverdict
    exact ⟨answer, rejected, hasked, rfl, by rw [← hanswer, Except.ok.injEq]⟩
  · obtain ⟨rfl, rfl⟩ := Program.dialogue_log_bind.1 hend
    obtain ⟨answer, hasked, hanswer⟩ := Guard.dialogue_isRejected hverdict
    rw [List.append_nil]
    exact ⟨answer, false, hasked, rfl, by simp [← hanswer]⟩

/-- The run is given up, with a reason behind a cross. -/
def IsGivenUp (outcome : Except Fault Outcome) : Prop :=
  ∃ reason, outcome = .ok (.stopped ("❌ " ++ reason))

/-! ## The prompts of a run -/

/-- After the verdict models are asked for topics only. -/
theorem prompts_of_present {count : Int} {outcome : Except Fault Outcome}
    (h : (present env options inputs count).Dialogue exchanges outcome) :
    prompts exchanges <+: [Topics.topicPrompt inputs (some count),
      Topics.topicPrompt inputs (some count) ++ Topics.strictSuffix] := by
  rcases Program.trace_bind.1 (Program.dialogue_log_bind.1 h) with
    ⟨fault, hattempt, -⟩ | ⟨result, first, last, rfl, hattempt, hend⟩
  · obtain ⟨result, hpropose, -⟩ := Program.trace_attempt.1 hattempt
    exact Topics.prompts_of_propose hpropose
  obtain ⟨result, hpropose, -⟩ := Program.trace_attempt.1 hattempt
  -- Once there are topics, no model is asked any more.
  have hlast : prompts last = [] := by
    split at hend
    · rw [hend.1]
      rfl
    · rcases Program.dialogue_print_bind.1 hend with ⟨_, rfl, -⟩ | hend
      · rfl
      split at hend
      · rw [hend.1]
        rfl
      · exact Model.prompts_eq_nil
          ((keepsTo_writeDeck env options _).bind fun _ => Program.only_done _) (by simp) hend
  rw [Model.prompts_append, hlast, List.append_nil]
  exact Topics.prompts_of_propose hpropose

/-- What a run on inputs that are not refused consists of: the verdict, and if the inputs are not
rejected the rest. -/
theorem dialogue_plan {count : Int} {outcome : Except Fault Outcome}
    (hvalid : checkedInputs options = .ok inputs)
    (h : (plan env options count).Dialogue exchanges outcome) :
    ∃ first last answer, exchanges = first ++ last ∧ Asked (verdictPrompt inputs) first answer ∧
      ((SaysTrue answer ∧ last = [] ∧ IsGivenUp outcome) ∨
        (¬ SaysTrue answer ∧ (present env options inputs count).Dialogue last outcome)) := by
  rw [plan, hvalid] at h
  rcases Program.trace_bind.1 h with
    ⟨fault, hscreen, rfl⟩ | ⟨rejected, first, last, rfl, hscreen, hend⟩
  · obtain ⟨_, _, -, hok, -⟩ := dialogue_screen hscreen
    cases hok
  obtain ⟨answer, _, hasked, hok, hrejected⟩ := dialogue_screen hscreen
  cases hok
  refine ⟨first, last, answer, rfl, hasked, ?_⟩
  split at hend
  · next htrue =>
    obtain ⟨rfl, rfl⟩ := hend
    exact .inl ⟨hrejected.1 htrue, rfl,
      "inputs flagged as gibberish or jailbreak attempt by model; aborting", rfl⟩
  · next hfalse => exact .inr ⟨fun htrue => hfalse (hrejected.2 htrue), hend⟩

/-! ## What a run prints -/

section Printed

variable {σ : Type} {answer : (action : Action) → σ → action.Answer × σ}

/-- A run of the program that is given up has printed nothing. -/
def StopsQuietly (answer : (action : Action) → σ → action.Answer × σ)
    (program : Program Outcome) : Prop :=
  ∀ state reason, (program.run answer state).1 = .ok (.stopped reason) →
    program.printed answer state = []

theorem stopsQuietly_done (outcome : Outcome) : StopsQuietly answer (.done outcome) :=
  fun _ _ _ => rfl

/-- What prints nothing may come first. -/
theorem stopsQuietly_bind {α : Type} {parties : List Party} {program : Program α}
    {next : α → Program Outcome} (h : program.KeepsTo parties)
    (hnext : ∀ value, StopsQuietly answer (next value)) :
    StopsQuietly answer (program.bind next) := by
  intro state reason hstop
  rw [Program.run_bind] at hstop
  rw [h.printed_bind]
  rcases hrun : program.run answer state with ⟨fault | value, after⟩
  · rfl
  · rw [hrun] at hstop
    exact hnext value after reason hstop

/-- A run that has printed its topics is not given up. -/
theorem not_stopped_of_printed {topics : List Fields} {text reason : String}
    (h : ((Program.print text).bind fun _ =>
      if options.presentation.isEmpty then .done Outcome.finished
      else (writeDeck env options topics).bind fun _ => .done .finished).Dialogue exchanges
        (.ok (.stopped reason))) : False := by
  rcases Program.dialogue_print_bind.1 h with ⟨_, -, herror⟩ | h
  · cases herror
  split at h
  · cases h.2
  · rcases Program.trace_bind.1 h with ⟨fault, -, herror⟩ | ⟨_, first, second, -, -, hend⟩
    · cases herror
    · cases hend.2

/-- Topics that are printed are not given up any more. -/
theorem stopsQuietly_present (env : Environment) (options : Options) (inputs : Guard.Inputs)
    (count : Int) : StopsQuietly answer (present env options inputs count) := by
  refine stopsQuietly_bind (Program.keepsTo_log _ : Program.KeepsTo [] _) fun _ =>
    stopsQuietly_bind (Topics.keepsTo_propose env inputs _ _).attempt fun result => ?_
  cases result with
  | error fault => exact stopsQuietly_done _
  | ok report =>
    -- From here on something is printed, so the run must not stop.
    intro state reason hstop
    exact (not_stopped_of_printed (hstop ▸ Program.dialogue_transcript answer _ state)).elim

theorem stopsQuietly_plan (env : Environment) (options : Options) (count : Int) :
    StopsQuietly answer (plan env options count) := by
  unfold plan
  split
  · exact stopsQuietly_done _
  · refine stopsQuietly_bind (keepsTo_screen env options _) fun rejected => ?_
    split
    · exact stopsQuietly_done _
    · exact stopsQuietly_present env options _ count

end Printed

/-! ## Runs -/

/-- The subject is empty, or the inputs are not let through. -/
def IsRefused (options : Options) : Prop :=
  options.subject = "" ∨
    ∃ fault, checkedInputs options = .error fault

/-- What a run with the given options keeps to. -/
structure IsGated (options : Options) (exchanges : List Exchange) (printed : List String)
    (outcome : Except Fault Outcome) : Prop where
  /-- Nothing is asked outside for inputs that are refused. The run is given up, unless the number
  of topics is looked at before the inputs and is empty. -/
  refused : IsRefused options → exchanges = [] ∧ printed = [] ∧
    (options.subject = "" ∨ options.maxTopics.isSome → IsGivenUp outcome)
  /-- Nothing but the verdict is asked for inputs that a model rejects, and the run is given up. -/
  rejected : ∀ inputs, checkedInputs options = .ok inputs →
    ∀ last ∈ exchanges, ∀ answer, IsAsked (verdictPrompt inputs) last answer → SaysTrue answer →
      (exchanges = [last] ∨ ∃ first, prompt? first.call = some (verdictPrompt inputs) ∧
        exchanges = [first, ⟨.sleep retryPause, .ok ()⟩, last]) ∧
      printed = [] ∧ IsGivenUp outcome
  /-- Models are sent the question about the inputs, at most twice, and then the request for topics
  and its stricter form, at most once each. -/
  prompts : prompts exchanges = [] ∨ ∃ inputs number n later,
    checkedInputs options = .ok inputs ∧
      options.maxTopics.map Topics.clampTopics = some number ∧ 1 ≤ number ∧ number ≤ 5 ∧ n ≤ 2 ∧
      later <+: [Topics.topicPrompt inputs (some number),
        Topics.topicPrompt inputs (some number) ++ Topics.strictSuffix] ∧
      prompts exchanges = List.replicate n (verdictPrompt inputs) ++ later

/-- The question about the inputs is no request for topics: they start with different letters. -/
theorem verdictPrompt_notMem_requests (inputs inputs' : Guard.Inputs) (limit : Option Int) :
    verdictPrompt inputs ∉ [Topics.topicPrompt inputs' limit,
      Topics.topicPrompt inputs' limit ++ Topics.strictSuffix] := by
  have hverdict : (verdictPrompt inputs).toList.head? = some 'R' := by
    unfold verdictPrompt
    repeat rw [String.toList_append]
    rfl
  have hrequest : (Topics.topicPrompt inputs' limit).toList.head? = some 'Y' := by
    unfold Topics.topicPrompt Topics.safetyRules
    repeat rw [String.toList_append]
    rfl
  intro hmem
  simp only [List.mem_cons, List.not_mem_nil, or_false] at hmem
  rcases hmem with heq | heq
  · rw [heq, hrequest] at hverdict
    cases hverdict
  · rw [heq, String.toList_append, List.head?_append, hrequest] at hverdict
    cases hverdict

variable {printed : List String} {outcome : Except Fault Outcome}

/-- A run that does nothing is gated if refused inputs make it give up. -/
theorem isGated_of_idle (hend : IsRefused options →
      options.subject = "" ∨ options.maxTopics.isSome → IsGivenUp outcome) :
    IsGated options [] [] outcome where
  refused hrefused := ⟨rfl, rfl, hend hrefused⟩
  rejected _ _ _ hmem := nomatch hmem
  prompts := .inl rfl

/-- A run whose inputs were let through keeps the order of questions. -/
theorem isGated_of_plan {count : Int} (hcount : options.maxTopics = some count)
    (hvalid : checkedInputs options = .ok inputs)
    (hsubject : options.subject ≠ "")
    (hquiet : ∀ reason, outcome = .ok (.stopped reason) → printed = [])
    (h : (plan env options (Topics.clampTopics count)).Dialogue exchanges outcome) :
    IsGated options exchanges printed outcome := by
  obtain ⟨first, last, answer, rfl, hasked, hend⟩ := dialogue_plan hvalid h
  have hlater : prompts last <+: [Topics.topicPrompt inputs (some (Topics.clampTopics count)),
      Topics.topicPrompt inputs (some (Topics.clampTopics count)) ++ Topics.strictSuffix] := by
    rcases hend with ⟨-, rfl, -⟩ | ⟨-, hpresent⟩
    · exact List.nil_prefix
    · exact prompts_of_present hpresent
  refine ⟨?_, ?_, ?_⟩
  · rintro (hempty | ⟨fault, hfault⟩)
    · exact absurd hempty hsubject
    · rw [hvalid] at hfault
      cases hfault
  · intro inputs' hvalid' exchange hmem answer' hrejection htrue
    obtain rfl := Except.ok.inj (hvalid.symm.trans hvalid')
    -- The question is asked in the first part only.
    have hfirst : exchange ∈ first := by
      rcases List.mem_append.1 hmem with hmem | hmem
      · exact hmem
      · have hprompt : verdictPrompt inputs ∈ prompts last :=
          List.mem_filterMap.2 ⟨exchange, hmem, hrejection.prompt⟩
        exact absurd (hlater.subset hprompt) (verdictPrompt_notMem_requests _ _ _)
    obtain ⟨reply, rfl, htrue⟩ := htrue
    obtain ⟨rfl, hshape⟩ := hasked.of_answer hfirst hrejection.outcome
    rcases hend with ⟨-, rfl, hgivenUp⟩ | ⟨hnot, -⟩
    · obtain ⟨reason, houtcome⟩ := hgivenUp
      rw [List.append_nil]
      exact ⟨hshape, hquiet _ houtcome, reason, houtcome⟩
    · exact absurd ⟨reply, rfl, htrue⟩ hnot
  · obtain ⟨n, hn, hfirst⟩ := hasked.prompts_eq
    obtain ⟨hpos, hle⟩ := Topics.clampTopics_mem count
    refine .inr ⟨inputs, _, n, prompts last, hvalid, by rw [hcount]; rfl, hpos, hle, hn, hlater, ?_⟩
    rw [Model.prompts_append, hfirst]

/-- Every run with accepted arguments is gated. -/
theorem isGated_run {σ : Type} (answer : (action : Action) → σ → action.Answer × σ) (state : σ)
    {arguments : List String} (h : readArguments env arguments = .ok (.plan options)) :
    IsGated options ((run env arguments).transcript answer state)
      ((run env arguments).printed answer state) ((run env arguments).run answer state).1 := by
  rw [run, h]
  by_cases hsubject : options.subject = ""
  · simp only [hsubject]
    exact isGated_of_idle fun _ _ => ⟨"--subject is required", rfl⟩
  simp only [String.isEmpty_iff, hsubject, if_false]
  cases hcount : options.maxTopics with
  | none =>
    -- The run fails on the empty number, before the inputs are looked at.
    refine isGated_of_idle fun _ hgivenUp => ?_
    simp [hsubject, hcount] at hgivenUp
  | some count =>
    cases hvalid : checkedInputs options with
    | error fault =>
      simp only [plan, hvalid]
      exact isGated_of_idle fun _ _ => ⟨fault.message, rfl⟩
    | ok inputs =>
      exact isGated_of_plan hcount hvalid hsubject
        (fun reason hstop => stopsQuietly_plan env options _ state reason hstop)
        (Program.dialogue_transcript answer _ state)

/-- An outside where the model is asked too often at first and then rejects the inputs. -/
def rejectLate : (action : Action) → Bool → action.Answer × Bool :=
  Model.replyInTurn (.error (.reported .runtime "429 Too Many Requests"))
    (.ok { text := some " true\n" })

/-- A run where the question is put twice. -/
def rejectedRun : Program Outcome :=
  run { geminiApiKey := some "key" } ["--subject", "Cars"]

/-- A run is given up after the second question about its inputs. -/
theorem isGated_of_rejectedRun : ∃ options, options.subject = "Cars" ∧
    IsGated options (rejectedRun.transcript rejectLate false)
      (rejectedRun.printed rejectLate false) (rejectedRun.run rejectLate false).1 ∧
    prompts (rejectedRun.transcript rejectLate false) =
      List.replicate 2 (verdictPrompt { subject := "Cars" }) := by
  have hread : readArguments { geminiApiKey := some "key" } ["--subject", "Cars"] =
      .ok (.plan { Options.initial { geminiApiKey := some "key" } with subject := "Cars" }) := by
    rfl
  exact ⟨_, rfl, isGated_run rejectLate false hread, by decide +kernel⟩

/-- Refused inputs do not make a run give up if the number of topics is empty. -/
theorem not_isGivenUp_of_emptyNumber :
    ¬ ∀ (answer : (action : Action) → Bool → action.Answer × Bool) state env arguments options,
      readArguments env arguments = .ok (.plan options) → IsRefused options →
        (run env arguments).transcript answer state = [] ∧
          (run env arguments).printed answer state = [] ∧
          IsGivenUp ((run env arguments).run answer state).1 := by
  intro h
  have hread : readArguments {} ["--subject", "123", "--max=--"] =
      .ok (.plan { Options.initial {} with subject := "123", maxTopics := none }) := by
    rfl
  have hrefused :
      IsRefused { Options.initial {} with subject := "123", maxTopics := none } := by
    refine .inr ?_
    cases hvalid : checkedInputs
        { Options.initial {} with subject := "123", maxTopics := none } with
    | error fault => exact ⟨fault, rfl⟩
    | ok inputs =>
      obtain ⟨-, ⟨cleaned, hclean, hcut⟩, -⟩ :=
        (Guard.validate_eq_ok_iff_isPassed _ _ _ _).1 hvalid
      obtain rfl := Except.ok.inj ((Guard.cleanInput_str "123").symm.trans hclean)
      exact absurd hcut.makesSense (by decide +kernel)
  obtain ⟨-, -, reason, hreason⟩ := h rejectLate false {} _ _ hread hrefused
  rw [run, hread] at hreason
  cases hreason

end CommandLine

end DeckPlan
