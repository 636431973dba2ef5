import DeckPlan.Proofs.CommandLine.Gate
import DeckPlan.Proofs.Outside.Authorization

/-!
# The stages of a run

A run has two stages. In the first, models are asked about the inputs and for topics, and it ends
with the topics printed or with the run given up. In the second, the presentation is written, if
one is named. `RunCourse` lists the courses that a run can take, and `DeckCourse` those of its
second stage; `runCourse_of_course` and `deckCourse_of_course` say that there are no others.
-/

namespace DeckPlan.CommandLine

open Program (Within)

variable {env : Environment} {options : Options} {events : List Event}

/-- Nothing happens but questions to models, with pauses between. -/
def IsAsking (events : List Event) : Prop :=
  ∀ event ∈ events, Within [.model, .time] event.action

/-- The topics of a report are printed. -/
def printing (report : Topics.Report) : Event :=
  ⟨.print report.toJson.indented, .ok ()⟩

/-- The inputs are let through, and topics are asked for. -/
inductive ProposalCourse (env : Environment) (options : Options) :
    List Event → Except Fault Topics.Report → Prop
  | mk {inputs : Guard.Inputs} {count : Int} {first second : List Event}
      {outcome : Except Fault Topics.Report} (line : String) :
      checkedInputs options = .ok inputs →
      options.maxTopics = some count →
      (screen env options inputs).Course first (.ok false) →
      (Topics.propose env inputs (some (Topics.clampTopics count)) options.model).Course second
        outcome →
      ProposalCourse env options (first ++ ⟨.log line, ()⟩ :: second) outcome

/-- The courses of a run with the given options. -/
inductive RunCourse (env : Environment) (options : Options) :
    List Event → Except Fault Outcome → Prop
  /-- The empty number of topics cannot be compared. -/
  | emptyNumber : options.subject ≠ "" → options.maxTopics = none →
      RunCourse env options [] (.error (.notComparable .arr "<="))
  | refused (reason : String) : (options.maxTopics = none → options.subject = "") →
      RunCourse env options [] (.ok (.stopped ("❌ " ++ reason)))
  | rejected {events : List Event} {inputs : Guard.Inputs} {count : Int} (reason : String) :
      checkedInputs options = .ok inputs →
      options.maxTopics = some count → (screen env options inputs).Course events (.ok true) →
      RunCourse env options events (.ok (.stopped ("❌ " ++ reason)))
  | unproposed {events : List Event} {fault : Fault} :
      ProposalCourse env options events (.error fault) →
      RunCourse env options events
        (.ok (.stopped ("❌ " ++ ("Topic generation failed: " ++ fault.message))))
  /-- The topics cannot be printed. -/
  | unprinted {first : List Event} {report : Topics.Report} (fault : Fault) :
      ProposalCourse env options first (.ok report) →
      RunCourse env options (first ++ [⟨.print report.toJson.indented, .error fault⟩])
        (.error fault)
  /-- There is no presentation to write. -/
  | printed {first : List Event} {report : Topics.Report} :
      ProposalCourse env options first (.ok report) → options.presentation = "" →
      RunCourse env options (first ++ [printing report]) (.ok .finished)
  | written {first last : List Event} {report : Topics.Report} {result : Except Fault Unit} :
      ProposalCourse env options first (.ok report) → options.presentation ≠ "" →
      (writeDeck env options report.topics).Course last result →
      RunCourse env options (first ++ printing report :: last) (result.map fun _ => .finished)

/-- The courses in which topics are written into a presentation. -/
inductive DeckCourse (env : Environment) (options : Options) (topics : List Fields) :
    List Event → Except Fault Unit → Prop
  /-- The credentials are missing. -/
  | skipped {first : List Event} {fault : Fault} : (authorize env).Course first (.error fault) →
      fault.kind = .fileNotFound →
      DeckCourse env options topics
        (first ++ [⟨.log ("⚠️ " ++ fault.message ++ "; skipping Slides editing"), ()⟩]) (.ok ())
  | unauthorized {first : List Event} {fault : Fault} :
      (authorize env).Course first (.error fault) → fault.kind ≠ .fileNotFound →
      DeckCourse env options topics first (.error fault)
  | noSheet {first : List Event} {clients : Slides.Clients} :
      (authorize env).Course first (.ok clients) → options.spreadsheet = "" →
      DeckCourse env options topics
        (first ++ [⟨.log "❌ --sheet-id is required when --presentation-id is set", ()⟩]) (.ok ())
  | noImage {first second : List Event} {clients : Slides.Clients} {fault : Fault} :
      (authorize env).Course first (.ok clients) → options.spreadsheet ≠ "" →
      (illustrate env options topics).Course second (.error fault) →
      DeckCourse env options topics (first ++ second) (.error fault)
  | written {first second third : List Event} {clients : Slides.Clients}
      {illustrated : List Fields} :
      (authorize env).Course first (.ok clients) → options.spreadsheet ≠ "" →
      (illustrate env options topics).Course second (.ok illustrated) →
      (Slides.writeTopics clients options.spreadsheet options.presentation
        (.arr (illustrated.map .obj))).Course third (.ok ()) →
      DeckCourse env options topics (first ++ (second ++ third)) (.ok ())
  | unwritten {first second third : List Event} {clients : Slides.Clients}
      {illustrated : List Fields} {fault : Fault} :
      (authorize env).Course first (.ok clients) → options.spreadsheet ≠ "" →
      (illustrate env options topics).Course second (.ok illustrated) →
      (Slides.writeTopics clients options.spreadsheet options.presentation
        (.arr (illustrated.map .obj))).Course third (.error fault) →
      DeckCourse env options topics
        (first ++ (second ++ (third ++
          [⟨.log ("❌ Writing topics to presentation failed: " ++ fault.message), ()⟩])))
        (.ok ())

theorem IsAsking.append {first second : List Event} (hfirst : IsAsking first)
    (hsecond : IsAsking second) : IsAsking (first ++ second) :=
  fun event hmem => (List.mem_append.1 hmem).elim (hfirst event) (hsecond event)

/-- A model that gives no verdict does not fail the run. -/
theorem exists_eq_ok_of_screen {inputs : Guard.Inputs} {outcome : Except Fault Bool}
    (h : (screen env options inputs).Course events outcome) :
    ∃ rejected, outcome = .ok rejected := by
  rcases Program.trace_recover.1 h with
    ⟨rejected, -, rfl⟩ | ⟨fault, first, second, -, -, hlog⟩
  · exact ⟨rejected, rfl⟩
  · obtain ⟨rest, -, -, rfl⟩ := Program.course_log_bind.1 hlog
    exact ⟨false, rfl⟩

/-- The verdict on the inputs takes nothing but questions. -/
theorem isAsking_of_screen {inputs : Guard.Inputs} {outcome : Except Fault Bool}
    (h : (screen env options inputs).Course events outcome) : IsAsking events :=
  (keepsTo_screen env options inputs).forall_mem_course h

/-- The first stage takes nothing but questions until topics are printed. -/
theorem ProposalCourse.isAsking {outcome : Except Fault Topics.Report}
    (h : ProposalCourse env options events outcome) : IsAsking events := by
  obtain ⟨line, -, -, hscreen, hpropose⟩ := h
  refine (isAsking_of_screen hscreen).append (List.forall_mem_cons.2 ⟨trivial, ?_⟩)
  exact ((Topics.keepsTo_propose env _ _ options.model).mono (by simp)).forall_mem_course hpropose

/-- All that happens in the authorization belongs to it. -/
theorem within_of_authorize {outcome : Except Fault Slides.Clients}
    (h : (authorize env).Course events outcome) :
    ∀ event ∈ events, Within [.authorization] event.action :=
  (keepsTo_authorize env).forall_mem_course h

/-- All that happens while topics are written is done to the two documents that are named. -/
theorem within_of_writeTopics {clients : Slides.Clients} {topics : Json}
    {outcome : Except Fault Unit}
    (h : (Slides.writeTopics clients options.spreadsheet options.presentation topics).Course
      events outcome) : ∀ event ∈ events,
        Within [.sheets options.spreadsheet, .slides options.presentation] event.action :=
  (Slides.keepsTo_writeTopics clients _ _ topics).forall_mem_course h

/-- Whoever writes a presentation prints nothing. -/
theorem printedIn_of_writeDeck {topics : List Fields} {outcome : Except Fault Unit}
    (h : (writeDeck env options topics).Course events outcome) : printedIn events = [] :=
  Program.printedIn_eq_nil ((keepsTo_writeDeck env options topics).forall_mem_course h)

/-- A report is all that is printed, if nothing is printed after it. -/
theorem ProposalCourse.printedIn_eq {first last : List Event} {outcome : Except Fault Topics.Report}
    (h : ProposalCourse env options first outcome) (report : Topics.Report)
    (hlast : printedIn last = []) :
    printedIn (first ++ printing report :: last) = [report.toJson.indented] := by
  rw [List.append_cons, printedIn_append, printedIn_append, hlast,
    Program.printedIn_eq_nil h.isAsking]
  rfl

/-- The request for topics, and what follows on its outcome. -/
theorem runCourse_of_present {inputs : Guard.Inputs} {count : Int} {first : List Event}
    {outcome : Except Fault Outcome}
    (hinputs : checkedInputs options = .ok inputs)
    (hcount : options.maxTopics = some count)
    (hscreen : (screen env options inputs).Course first (.ok false))
    (h : (present env options inputs (Topics.clampTopics count)).Course events outcome) :
    RunCourse env options (first ++ events) outcome := by
  obtain ⟨rest, rfl, hrest⟩ := Program.course_log_bind.1 h
  obtain ⟨result, second, last, rfl, hpropose, hend⟩ := Program.trace_attempt_bind.1 hrest
  have hproposal : ∀ line,
      ProposalCourse env options (first ++ ⟨.log line, ()⟩ :: second) result :=
    fun line => .mk line hinputs hcount hscreen hpropose
  cases result with
  | error fault =>
    obtain ⟨rfl, rfl⟩ := hend
    -- Every reason to give up starts with the cross.
    have hcross : "❌ Topic generation failed: " ++ fault.message =
        "❌ " ++ ("Topic generation failed: " ++ fault.message) := by
      rw [← String.append_assoc]
      rfl
    rw [List.append_nil, hcross]
    exact .unproposed (hproposal _)
  | ok report =>
    rcases Program.course_print_bind.1 hend with ⟨fault, rfl, rfl⟩ | ⟨⟨⟩, last, rfl, hlast⟩
    · rw [← List.cons_append, ← List.append_assoc]
      exact .unprinted fault (hproposal _)
    rw [← List.cons_append, ← List.append_assoc]
    split at hlast
    · next hempty =>
      obtain ⟨rfl, rfl⟩ := hlast
      exact .printed (hproposal _) (String.isEmpty_iff.1 hempty)
    · next hnamed =>
      -- Whether the second stage fails or not, it is all that is left.
      have hne : options.presentation ≠ "" := fun heq => hnamed (String.isEmpty_iff.2 heq)
      rcases Program.trace_bind.1 hlast with
        ⟨fault, hdeck, rfl⟩ | ⟨⟨⟩, deck, nothing, rfl, hdeck, rfl, rfl⟩
      · exact .written (hproposal _) hne hdeck
      · rw [List.append_nil]
        exact .written (hproposal _) hne hdeck

/-- Every run with accepted arguments takes one of the courses. -/
theorem runCourse_of_course {arguments : List String} {outcome : Except Fault Outcome}
    (hread : readArguments env arguments = .ok (.plan options))
    (h : (run env arguments).Course events outcome) : RunCourse env options events outcome := by
  rw [run, hread] at h
  dsimp only at h
  -- The subject is looked at first, then the number of topics, then the inputs.
  split at h
  · next hempty =>
    obtain ⟨rfl, rfl⟩ := h
    exact .refused "--subject is required" fun _ => String.isEmpty_iff.1 hempty
  next hsubject =>
  split at h
  swap
  · next hnumber =>
    obtain ⟨rfl, rfl⟩ := h
    exact .emptyNumber (fun heq => hsubject (String.isEmpty_iff.2 heq)) hnumber
  next count hcount =>
  rw [plan] at h
  split at h
  · next fault _ =>
    obtain ⟨rfl, rfl⟩ := h
    exact .refused fault.message fun hnone => by simp [hnone] at hcount
  next inputs hinputs =>
  rcases Program.trace_bind.1 h with
    ⟨fault, hscreen, -⟩ | ⟨rejected, first, last, rfl, hscreen, hend⟩
  · obtain ⟨rejected, hok⟩ := exists_eq_ok_of_screen hscreen
    cases hok
  cases rejected with
  | true =>
    obtain ⟨rfl, rfl⟩ := hend
    rw [List.append_nil]
    exact .rejected "inputs flagged as gibberish or jailbreak attempt by model; aborting" hinputs
      hcount hscreen
  | false => exact runCourse_of_present hinputs hcount hscreen hend

/-- Both clients were built with the credentials. -/
def IsBuilt (credentials : Credentials) (events : List Event) : Prop :=
  ⟨.call (.buildClient "slides" "v1" credentials), .ok ()⟩ ∈ events ∧
    ⟨.call (.buildClient "sheets" "v4" credentials), .ok ()⟩ ∈ events

/-- An authorization that succeeds has built the clients that it yields. -/
theorem built_of_authorize {clients : Slides.Clients}
    (h : (authorize env).Course events (.ok clients)) :
    ∃ credentials, clients = ⟨some credentials, some credentials⟩ ∧ IsBuilt credentials events := by
  obtain ⟨result, first, last, rfl, -, hlast⟩ := authorize_cases h
  obtain ⟨credentials, rfl, rfl⟩ := hlast.eq_of_ok rfl
  exact ⟨credentials, rfl, by simp, by simp⟩

/-- Whoever writes topics into a presentation takes one of the courses. -/
theorem deckCourse_of_course {topics : List Fields} {outcome : Except Fault Unit}
    (h : (writeDeck env options topics).Course events outcome) :
    DeckCourse env options topics events outcome := by
  obtain ⟨result, first, last, rfl, hauthorize, hend⟩ := Program.trace_attempt_bind.1 h
  cases result with
  | error fault =>
    dsimp only at hend
    split at hend
    · next hmissing =>
      obtain ⟨rfl, rfl⟩ := Program.course_log.1 hend
      exact .skipped hauthorize hmissing
    · next hother =>
      obtain ⟨rfl, rfl⟩ := hend
      rw [List.append_nil]
      exact .unauthorized hauthorize hother
  | ok clients =>
    dsimp only [writePresentation] at hend
    split at hend
    · next hempty =>
      obtain ⟨rfl, rfl⟩ := Program.course_log.1 hend
      exact .noSheet hauthorize (String.isEmpty_iff.1 hempty)
    next hnamed =>
    have hne : options.spreadsheet ≠ "" := fun heq => hnamed (String.isEmpty_iff.2 heq)
    rcases Program.trace_bind.1 hend with
      ⟨fault, himages, rfl⟩ | ⟨illustrated, second, third, rfl, himages, hwrite⟩
    · exact .noImage hauthorize hne himages
    rcases Program.trace_recover.1 hwrite with
      ⟨⟨⟩, hwritten, rfl⟩ | ⟨fault, third, last, rfl, hwritten, hlog⟩
    · exact .written hauthorize hne himages hwritten
    · obtain ⟨rfl, rfl⟩ := Program.course_log.1 hlog
      exact .unwritten hauthorize hne himages hwritten

end DeckPlan.CommandLine
