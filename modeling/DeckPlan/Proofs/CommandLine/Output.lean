import DeckPlan.Outside.World
import DeckPlan.Proofs.CommandLine.Stages
import DeckPlan.Proofs.Topics.Report

/-!
# What is printed

A run prints the report on the topics that were proposed, and nothing else (`ShowsTopics`). What it
prints depends on the settings for the topics (`AskAlike`), on the answers of models, on time, on
the clock, and on which texts the standard output takes (`BearsOnOutput`). Nothing that has to do
with images or with the presentation shows in it (`standardOutput_run`).

The standard output may refuse the report, and then nothing is printed though topics were proposed
(`not_printed_of_unencodableTopic`).
-/

namespace DeckPlan

open Program

/-! ## What the request for topics depends on -/

/-- The keys of the models are the same. -/
structure Environment.SameKeys (env env' : Environment) : Prop where
  google : env.googleApiKey = env'.googleApiKey
  gemini : env.geminiApiKey = env'.geminiApiKey
  openai : env.openaiApiKey = env'.openaiApiKey

section Keys

variable {env env' : Environment}

/-- Models are asked alike with the same keys. -/
theorem Model.generate_congr (h : env.SameKeys env') : generate env = generate env' := by
  have hask : ask env = ask env' := by
    funext prompt name
    rw [ask, ask, geminiKey?, geminiKey?, h.google, h.gemini, h.openai]
  funext prompt model
  rw [generate, generate, hask]

theorem Guard.isRejected_congr (h : env.SameKeys env') : isRejected env = isRejected env' := by
  funext inputs model
  rw [isRejected, isRejected, askPatiently, askPatiently, Model.generate_congr h]

/-- Topics are asked for alike with the same keys. -/
theorem Topics.propose_congr (h : env.SameKeys env') : propose env = propose env' := by
  have hrequest : request env = request env' := by
    funext prompt model
    rw [request, request, Model.generate_congr h]
  funext inputs limit model
  rw [propose, propose, hrequest]

end Keys

namespace CommandLine

/-- The settings that topics are asked for with are the same. -/
structure AskAlike (env env' : Environment) (options options' : Options) : Prop where
  keys : env.SameKeys env'
  subject : options.subject = options'.subject
  audience : options.audience = options'.audience
  tone : options.tone = options'.tone
  maxTopics : options.maxTopics = options'.maxTopics
  model : options.model = options'.model

/-! ## Two runs -/

/-- What is answered to the action bears on what is printed: it is a question to a model, a pause, a
look at the clock, or the printing itself. -/
def BearsOnOutput (action : Action) : Prop :=
  Within [.model, .time] action ∨ ∃ text, action = .print text

/-- All that a program does that asks models only bears on what is printed. -/
theorem only_bearsOnOutput {α : Type} {program : Program α} {parties : List Party}
    (h : program.KeepsTo parties) (hasking : parties ⊆ [.model, .time]) :
    program.Only BearsOnOutput :=
  Only.mono (h.mono hasking) fun _ => .inl

section Alike

variable {σ τ : Type} {R : σ → τ → Prop} {answer : (action : Action) → σ → action.Answer × σ}
  {answer' : (action : Action) → τ → action.Answer × τ} {state : σ} {state' : τ}
  {env env' : Environment} {options options' : Options}

/-- The second stage prints nothing. -/
theorem printed_afterTopics (answer : (action : Action) → σ → action.Answer × σ) (state : σ)
    (env : Environment) (options : Options) (topics : List Fields) :
    (if options.presentation.isEmpty then return .finished
      else do
        writeDeck env options topics
        return .finished : Program Outcome).printed answer state = [] := by
  split
  · rfl
  · exact KeepsTo.printed_eq_nil answer
      ((keepsTo_writeDeck env options topics).bind fun _ => only_done _) state

/-- Two runs ask for topics alike and print alike what comes of it. -/
theorem printed_present_alike (halike : AnswerAlike BearsOnOutput R answer answer')
    (hstate : R state state') (h : AskAlike env env' options options') (inputs : Guard.Inputs)
    (count : Int) : (present env options inputs count).printed answer state =
      (present env' options' inputs count).printed answer' state' := by
  rw [present, present, Topics.propose_congr h.keys, h.model]
  refine Only.seen_bind_alike (only_take (.inl trivial)) halike (fun _ _ _ hstate => ?_) hstate
  have hpropose : (Topics.propose env' inputs (some count) options'.model).Only BearsOnOutput :=
    only_bearsOnOutput (Topics.keepsTo_propose env' inputs (some count) options'.model) (by simp)
  refine hpropose.attempt.seen_bind_alike halike (fun result _ _ hstate => ?_) hstate
  cases result with
  | error => rfl
  | ok report =>
    refine Only.seen_bind_alike (only_take (.inr ⟨_, rfl⟩)) halike (fun _ state state' _ => ?_)
      hstate
    -- From here on the runs may differ, but they print nothing any more.
    exact (printed_afterTopics answer state env options report.topics).trans
      (printed_afterTopics answer' state' env' options' report.topics).symm

/-- With the same settings for the topics the same inputs are checked. -/
theorem checkedInputs_congr (h : AskAlike env env' options options') :
    checkedInputs options = checkedInputs options' := by
  rw [checkedInputs, checkedInputs, h.subject, h.audience, h.tone]

/-- With the same settings for the topics the same questions about the inputs are asked. -/
theorem screen_congr (h : AskAlike env env' options options') (inputs : Guard.Inputs) :
    screen env options inputs = screen env' options' inputs := by
  rw [screen, screen, Guard.isRejected_congr h.keys, h.model]

/-- Two runs with the same settings for the topics print the same. -/
theorem printed_run_alike (halike : AnswerAlike BearsOnOutput R answer answer')
    (hstate : R state state') (h : AskAlike env env' options options')
    {arguments arguments' : List String} (hread : readArguments env arguments = .ok (.plan options))
    (hread' : readArguments env' arguments' = .ok (.plan options')) :
    (run env arguments).printed answer state = (run env' arguments').printed answer' state' := by
  rw [run, run, hread, hread']
  dsimp only
  rw [h.subject, h.maxTopics]
  split
  · rfl
  split
  swap
  · rfl
  rw [plan, plan, checkedInputs_congr h]
  split
  · rfl
  next inputs _ =>
  rw [screen_congr h]
  have hasking := only_bearsOnOutput (keepsTo_screen env' options' inputs) (by simp)
  refine hasking.seen_bind_alike halike (fun rejected state state' hstate => ?_) hstate
  cases rejected with
  | true => rfl
  | false => exact printed_present_alike halike hstate h inputs _

end Alike

/-! ## The report -/

/-- The text on the standard output, where each result ends its line. -/
def standardOutput (printed : List String) : String :=
  String.join (printed.map (· ++ "\n"))

/-- Topics were asked for, and the report is what came of it. -/
def HasProposed (env : Environment) (options : Options) (events : List Event)
    (report : Topics.Report) : Prop :=
  ∃ first last, events = first ++ last ∧ ProposalCourse env options first (.ok report)

/-- The standard output refused the report. -/
def IsUnshown (events : List Event) (report : Topics.Report) : Prop :=
  ∃ fault, ⟨.print report.toJson.indented, .error fault⟩ ∈ events

/-- The standard output shows the report on topics that were proposed, if it takes the report, and
is empty otherwise. -/
structure ShowsTopics (env : Environment) (options : Options) (events : List Event) : Prop where
  ne_empty_iff : standardOutput (printedIn events) ≠ "" ↔
    ∃ report, HasProposed env options events report ∧ ¬ IsUnshown events report
  eq_of_proposed : ∀ report, HasProposed env options events report → ¬ IsUnshown events report →
    standardOutput (printedIn events) = report.toJson.indented ++ "\n"
  /-- The topics are those of the schema, without an image. -/
  topics : ∀ report, HasProposed env options events report → ∀ topic ∈ report.topics,
    Topics.IsTopic topic ∧ Fields.get? topic "image_url" = none

section Reports

variable {env : Environment} {options : Options} {events first last : List Event}
  {report : Topics.Report}

/-- The questions about the inputs and the request for topics have but one outcome. -/
theorem ProposalCourse.unique {first' last' : List Event}
    {outcome outcome' : Except Fault Topics.Report}
    (h : ProposalCourse env options first outcome) (h' : ProposalCourse env options first' outcome')
    (heq : first ++ last = first' ++ last') : outcome = outcome' := by
  obtain ⟨line, hinputs, hcount, hscreen, hpropose⟩ := h
  obtain ⟨line', hinputs', hcount', hscreen', hpropose'⟩ := h'
  obtain rfl := Except.ok.inj (hinputs.symm.trans hinputs')
  obtain rfl := Option.some.inj (hcount.symm.trans hcount')
  -- The questions about the inputs end at the same event, and so do the requests for topics.
  simp only [List.append_assoc, List.cons_append] at heq
  obtain ⟨-, hrest, -⟩ := hscreen.unique hscreen' heq
  exact (hpropose.unique hpropose' (List.cons.inj hrest).2).2.2

/-- There is but one report on what was proposed. -/
theorem HasProposed.unique {other : Topics.Report} (h : HasProposed env options events report)
    (hother : HasProposed env options events other) : report = other := by
  obtain ⟨first, last, rfl, hfirst⟩ := h
  obtain ⟨first', last', heq, hfirst'⟩ := hother
  exact Except.ok.inj (hfirst.unique hfirst' heq)

/-- The topics that are proposed have the fields of the schema, and an image is none of them. -/
theorem HasProposed.isTopic (h : HasProposed env options events report) :
    ∀ topic ∈ report.topics, Topics.IsTopic topic ∧ Fields.get? topic "image_url" = none := by
  obtain ⟨first, last, rfl, ⟨line, -, -, -, hpropose⟩⟩ := h
  obtain ⟨exchanges, hdialogue, -⟩ := hpropose.dialogue
  obtain ⟨objects, -, htopics⟩ := Topics.topics_eq_of_propose hdialogue
  intro topic hmem
  rw [htopics] at hmem
  obtain ⟨object, -, rfl⟩ := List.mem_map.1 hmem
  have htopic := Topics.isTopic_normalize object
  exact ⟨htopic, htopic.fits.get?_eq_none (by decide)⟩

/-- Nothing is printed where no report is taken. -/
theorem showsTopics_of_silent (hprinted : printedIn events = [])
    (hrefused : ∀ report, HasProposed env options events report → IsUnshown events report) :
    ShowsTopics env options events where
  ne_empty_iff := by
    rw [hprinted]
    exact iff_of_false (fun hne => hne rfl) fun ⟨report, h, hshown⟩ => hshown (hrefused report h)
  eq_of_proposed report h hshown := absurd (hrefused report h) hshown
  topics _ h := h.isTopic

/-- A report that is printed is not refused: nothing else is handed to the standard output. -/
theorem ProposalCourse.not_isUnshown {parties : List Party} {outcome : Except Fault Topics.Report}
    (h : ProposalCourse env options first outcome)
    (hlast : ∀ event ∈ last, Within parties event.action) (other : Topics.Report) :
    ¬ IsUnshown (first ++ printing report :: last) other := by
  rintro ⟨fault, hmem⟩
  rcases List.mem_append.1 hmem with hfirst | hrest
  · exact h.isAsking _ hfirst
  · rcases List.mem_cons.1 hrest with heq | hmem
    · have hraises : (printing report).Raises fault := heq ▸ rfl
      cases hraises
    · exact hlast _ hmem

/-- The report is printed, and nothing after it. -/
theorem ProposalCourse.showsTopics {parties : List Party}
    (h : ProposalCourse env options first (.ok report))
    (hlast : ∀ event ∈ last, Within parties event.action) :
    ShowsTopics env options (first ++ printing report :: last) := by
  have hproposed : HasProposed env options (first ++ printing report :: last) report :=
    ⟨first, _, rfl, h⟩
  have hprinted : standardOutput (printedIn (first ++ printing report :: last)) =
      report.toJson.indented ++ "\n" := by
    rw [h.printedIn_eq report (printedIn_eq_nil hlast)]
    simp [standardOutput]
  refine ⟨iff_of_true ?_ ⟨report, hproposed, h.not_isUnshown hlast report⟩,
    fun other hother _ => ?_, fun other hother => hother.isTopic⟩
  · rw [hprinted]
    simp
  · rw [hprinted, hproposed.unique hother]

/-- In each course the standard output shows the topics that were proposed. -/
theorem RunCourse.showsTopics {outcome : Except Fault Outcome}
    (h : RunCourse env options events outcome) : ShowsTopics env options events := by
  have hnothing : ∀ report, ¬ HasProposed env options [] report := by
    rintro report ⟨first, last, heq, ⟨line, -, -, -, -⟩⟩
    simp at heq
  cases h with
  | emptyNumber | refused =>
    exact showsTopics_of_silent rfl fun report h => absurd h (hnothing report)
  | rejected reason hinputs _ hscreen =>
    refine showsTopics_of_silent (printedIn_eq_nil (isAsking_of_screen hscreen)) ?_
    -- The verdict would have let the inputs through.
    rintro report ⟨first, last, heq, ⟨line, hinputs', -, hscreen', -⟩⟩
    obtain rfl := Except.ok.inj (hinputs.symm.trans hinputs')
    rw [← List.append_nil events, List.append_assoc] at heq
    obtain ⟨-, -, hverdict⟩ := hscreen.unique hscreen' heq
    cases hverdict
  | unproposed hproposal =>
    refine showsTopics_of_silent (printedIn_eq_nil hproposal.isAsking) ?_
    -- The request failed, so there is no second outcome of it.
    rintro report ⟨first, last, heq, hother⟩
    rw [← List.append_nil events] at heq
    cases hproposal.unique hother heq
  | @unprinted first report fault hproposal =>
    refine showsTopics_of_silent ?_ fun other hother => ?_
    · rw [printedIn_append, printedIn_eq_nil hproposal.isAsking]
      rfl
    · obtain rfl := hother.unique ⟨first, _, rfl, hproposal⟩
      exact ⟨fault, by simp⟩
  | printed hproposal =>
    have hnone : ∀ event ∈ ([] : List Event), Within [] event.action := by simp
    exact hproposal.showsTopics hnone
  | written hproposal _ hdeck =>
    exact hproposal.showsTopics ((keepsTo_writeDeck env options _).forall_mem_course hdeck)

/-- A run that fails after it has looked at the number of topics has got topics. -/
theorem RunCourse.exists_hasProposed {fault : Fault}
    (h : RunCourse env options events (.error fault)) (hnumber : options.maxTopics ≠ none) :
    ∃ report, HasProposed env options events report := by
  generalize houtcome : (Except.error fault : Except Fault Outcome) = outcome at h
  cases h with
  | emptyNumber _ hnone => exact absurd hnone hnumber
  | refused | rejected | unproposed => cases houtcome
  | unprinted _ hproposal | printed hproposal | written hproposal =>
    exact ⟨_, _, _, rfl, hproposal⟩

end Reports

/-- Runs that ask for topics alike print alike, each of them its report unless the standard output
refuses it. Related states say which answers the outsides still have in common: those of models, of
time, of the clock and of the standard output. -/
theorem standardOutput_run {σ τ : Type} {R : σ → τ → Prop}
    {answer : (action : Action) → σ → action.Answer × σ}
    {answer' : (action : Action) → τ → action.Answer × τ} {state : σ} {state' : τ}
    {env env' : Environment} {options options' : Options} {arguments arguments' : List String}
    (halike : AnswerAlike BearsOnOutput R answer answer') (hstate : R state state')
    (hsettings : AskAlike env env' options options')
    (hread : readArguments env arguments = .ok (.plan options))
    (hread' : readArguments env' arguments' = .ok (.plan options')) :
    standardOutput (printedIn ((run env arguments).events answer state)) =
        standardOutput (printedIn ((run env' arguments').events answer' state')) ∧
      ShowsTopics env options ((run env arguments).events answer state) ∧
      ShowsTopics env' options' ((run env' arguments').events answer' state') := by
  refine ⟨?_, (runCourse_of_course hread (course_events answer _ state)).showsTopics,
    (runCourse_of_course hread' (course_events answer' _ state')).showsTopics⟩
  have hprinted := printed_run_alike halike hstate hsettings hread hread'
  rw [printed, printed, seen_eq_flatMap, seen_eq_flatMap] at hprinted
  exact congrArg standardOutput hprinted

/-! ### Scripted outsides -/

/-- The scripts have the same answers of models, of time, of the clock and of the standard
output. -/
structure SameAnswers (world other : World) : Prop where
  replies : ∀ kind ∈ [Call.Kind.gemini, .openai, .sleep], world.replies kind = other.replies kind
  fallback : ∀ kind ∈ [Call.Kind.gemini, .openai, .sleep],
    world.fallback kind = other.fallback kind
  clock : world.clock = other.clock
  refusal : ∀ text, world.refusal (.print text) = other.refusal (.print text)

/-- Scripts with the same answers give them. -/
theorem answerAlike_world : AnswerAlike BearsOnOutput SameAnswers World.answer World.answer := by
  rintro action (hasking | ⟨text, rfl⟩) world other h
  · cases action with
    | call request =>
      have hkind : request.kind ∈ [Call.Kind.gemini, .openai, .sleep] := by
        cases request <;> simp [Within, Call.kind] at hasking ⊢
      refine ⟨?_, fun kind hmem => ?_, h.fallback, h.clock, h.refusal⟩
      · simp only [World.answer, World.nextReply, h.replies _ hkind, h.fallback _ hkind]
      · -- The same queue moves on in both scripts.
        simp only [World.answer, World.advance, h.replies kind hmem]
    | log => exact ⟨rfl, h.replies, h.fallback, h.clock, h.refusal⟩
    | readClock =>
      exact ⟨congrArg (List.headD · _) h.clock, h.replies, h.fallback,
        congrArg List.tail h.clock, h.refusal⟩
    | drawSuffix | hasFile | makeFolder | openFile | serialize | writeFile =>
      simp [Within] at hasking
    | print => exact hasking.elim
  · simp only [World.answer, World.allowed, h.refusal text]
    cases other.refusal (.print text) with
    | none => exact ⟨rfl, h.replies, h.fallback, h.clock, h.refusal⟩
    | some fault => exact ⟨rfl, h⟩

/-- A script in which a model lets the inputs through and answers the request for topics. -/
def proposingWorld (topics : String) : World :=
  { World.silent with
    replies
      | .gemini => [.ok { text := some "FALSE" }, .ok { text := some topics }]
      | _ => [] }

/-- A script in which a model proposes a topic. -/
def oneTopic : World :=
  proposingWorld "[\x7b\"topic\": \"Cars\", \"image_url\": \"https://a.b\"\x7d]"

/-- The same script for models, but with a saved login, no search for images and a presentation that
cannot be read. -/
def refusingWorld : World :=
  { oneTopic with
    replies
      | .gemini => oneTopic.replies .gemini
      | .loadLogin => [.ok { credentials := ⟨"login"⟩, valid := true }]
      | .webGet => [.error (.reported .timeout "too slow")]
      | .slidesGet => [.error (.reported .connection "refused")]
      | _ => []
    files := .ofPaths [loginPath] }

/-- A run without a presentation. -/
def plainRun : Program Outcome :=
  run { geminiApiKey := some "key" } ["--subject", "Cars"]

/-- A run with a presentation and a search for images. -/
def deckRun : Program Outcome :=
  run { geminiApiKey := some "key", searchKey := some "key", searchEngine := some "engine" }
    ["--presentation-id", "deck", "--subject=Cars", "--sheet-id", "book"]

/-- A run without a presentation and a run that fails to write one print the same topic. -/
theorem standardOutput_of_refusedDeck :
    standardOutput (printedIn (plainRun.events World.answer oneTopic)) =
        standardOutput (printedIn (deckRun.events World.answer refusingWorld)) ∧
      printedIn (plainRun.events World.answer oneTopic) ≠ [] ∧
      (callsIn (plainRun.events World.answer oneTopic)).length = 2 ∧
      (callsIn (deckRun.events World.answer refusingWorld)).length = 7 := by
  have hread : readArguments { geminiApiKey := some "key" } ["--subject", "Cars"] =
      .ok (.plan { Options.initial { geminiApiKey := some "key" } with subject := "Cars" }) := by
    rfl
  have hread' : readArguments
      { geminiApiKey := some "key", searchKey := some "key", searchEngine := some "engine" }
      ["--presentation-id", "deck", "--subject=Cars", "--sheet-id", "book"] =
      .ok (.plan { Options.initial { geminiApiKey := some "key" } with
        subject := "Cars", presentation := "deck", spreadsheet := "book" }) := by
    rfl
  have hstate : SameAnswers oneTopic refusingWorld :=
    ⟨by simp [oneTopic, proposingWorld, refusingWorld], by simp [refusingWorld], rfl, fun _ => rfl⟩
  refine ⟨(standardOutput_run answerAlike_world hstate ?_ hread hread').1, ?_⟩
  · exact ⟨⟨rfl, rfl, rfl⟩, rfl, rfl, rfl, rfl, rfl⟩
  · decide +kernel

/-- A script in which a model proposes a topic with half of a pair, which has no encoding. -/
def unencodableTopic : World :=
  proposingWorld "[\x7b\"topic\": \"\\ud83d\"\x7d]"

/-- Topics that were proposed need not be printed. -/
theorem not_printed_of_unencodableTopic :
    ¬ ∀ (world : World) (env : Environment) (arguments : List String) (options : Options),
      readArguments env arguments = .ok (.plan options) →
        (standardOutput (printedIn ((run env arguments).events World.answer world)) ≠ "" ↔
          ∃ report, HasProposed env options ((run env arguments).events World.answer world)
            report) := by
  intro h
  let options : Options :=
    { Options.initial { geminiApiKey := some "key" } with subject := "Cars" }
  have hread : readArguments { geminiApiKey := some "key" } ["--subject", "Cars"] =
      .ok (.plan options) := by
    rfl
  obtain ⟨hnothing, hfails⟩ : printedIn (plainRun.events World.answer unencodableTopic) = [] ∧
      (plainRun.run World.answer unencodableTopic).1.isOk = false := by
    decide +kernel
  have hcourse :=
    runCourse_of_course hread (course_events World.answer plainRun unencodableTopic)
  rcases hrun : (plainRun.run World.answer unencodableTopic).1 with fault | result
  · rw [hrun] at hcourse
    have hproposed := hcourse.exists_hasProposed nofun
    exact (h unencodableTopic _ _ options hread).2 hproposed (congrArg standardOutput hnothing)
  · rw [hrun] at hfails
    cases hfails

end CommandLine

end DeckPlan
