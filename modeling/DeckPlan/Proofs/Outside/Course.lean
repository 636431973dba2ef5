import DeckPlan.Proofs.Outside.Conduct

/-!
# Courses

An event is an action with what was answered to it. The events of a run (`Program.events`) are all
that happened, in order: the calls with their replies, what was printed and logged, and what was
done with files. All of it is seen, so every other view is a view of the events (`seen_eq_flatMap`,
`Course.trace`).

* `Program.Course` says which events a program can have at all, and with which outcome.
* `callsIn` and `printedIn` are the calls and the results among events.
* `Program.EndsBy` says that some events end a program, and with which faults. `Program.FailsBy`
  says also that it fails for no other reason but an excused one. Both are proved along the program.
-/

namespace DeckPlan

/-- An action with what was answered to it. -/
structure Event where
  action : Action
  answer : action.Answer

namespace Event

/-- Every action is an event. -/
def view : View Event :=
  fun action answer => [⟨action, answer⟩]

/-- The call of an event. -/
def call? : Event → Option Call
  | ⟨.call request, _⟩ => some request
  | _ => none

/-- The event fails with the fault. -/
def Raises (event : Event) (fault : Fault) : Prop :=
  event.action.result event.answer = .error fault

/-- What an event prints. -/
def printed (event : Event) : List String :=
  event.action.printed event.answer

end Event

/-- The calls among events, in order. -/
def callsIn (events : List Event) : List Call :=
  events.filterMap Event.call?

/-- The results that are printed among events, in order. -/
def printedIn (events : List Event) : List String :=
  events.flatMap Event.printed

@[simp]
theorem callsIn_nil : callsIn [] = [] := rfl

@[simp]
theorem callsIn_append (first second : List Event) :
    callsIn (first ++ second) = callsIn first ++ callsIn second :=
  List.filterMap_append

@[simp]
theorem callsIn_call (request : Call) (reply : Except Fault request.Reply) (rest : List Event) :
    callsIn (⟨.call request, reply⟩ :: rest) = request :: callsIn rest := rfl

@[simp]
theorem callsIn_log (line : String) (answer : Unit) (rest : List Event) :
    callsIn (⟨.log line, answer⟩ :: rest) = callsIn rest := rfl

@[simp]
theorem callsIn_print (text : String) (answer : Except Fault Unit) (rest : List Event) :
    callsIn (⟨.print text, answer⟩ :: rest) = callsIn rest := rfl

@[simp]
theorem printedIn_append (first second : List Event) :
    printedIn (first ++ second) = printedIn first ++ printedIn second :=
  List.flatMap_append

/-- A call is among the calls if some reply to it is among the events. -/
theorem mem_callsIn {request : Call} {events : List Event} :
    request ∈ callsIn events ↔ ∃ reply, ⟨.call request, reply⟩ ∈ events := by
  rw [callsIn, List.mem_filterMap]
  constructor
  · rintro ⟨⟨action, answer⟩, hmem, hcall⟩
    cases action with
    | call =>
      cases hcall
      exact ⟨answer, hmem⟩
    | _ => cases hcall
  · rintro ⟨reply, hmem⟩
    exact ⟨_, hmem, rfl⟩

/-- The calls of the exchanges are the calls. -/
theorem map_call_exchanges (events : List Event) :
    (events.flatMap fun event => event.action.exchanges event.answer).map Exchange.call =
      callsIn events := by
  induction events with
  | nil => rfl
  | cons event rest ih =>
    rw [List.flatMap_cons, List.map_append, ih]
    obtain ⟨action, answer⟩ := event
    cases action <;> rfl

/-- A place in two lists that are put together is in the first, or in the second behind all of the
first. -/
theorem prefix_append_cases {α : Type} {before first second : List α} {item : α}
    (h : before ++ [item] <+: first ++ second) :
    before ++ [item] <+: first ∨
      ∃ later, before = first ++ later ∧ later ++ [item] <+: second := by
  induction first generalizing before with
  | nil => exact .inr ⟨before, rfl, h⟩
  | cons head first ih =>
    cases before with
    | nil =>
      obtain ⟨rfl, -⟩ := List.cons_prefix_cons.1 h
      exact .inl (List.cons_prefix_cons.2 ⟨rfl, List.nil_prefix⟩)
    | cons other before =>
      obtain ⟨rfl, hrest⟩ := List.cons_prefix_cons.1 h
      rcases ih hrest with hfirst | ⟨later, rfl, hsecond⟩
      · exact .inl (List.cons_prefix_cons.2 ⟨rfl, hfirst⟩)
      · exact .inr ⟨later, rfl, hsecond⟩

namespace Program

variable {α β σ : Type}

/-- The events of a run where `answer` answers the actions from a state. -/
abbrev events (answer : (action : Action) → σ → action.Answer × σ) :
    Program α → σ → List Event :=
  seen Event.view answer

/-- The program has these events and this outcome if the outside gives these answers. -/
abbrev Course : Program α → List Event → Except Fault α → Prop :=
  Trace Event.view

section Runs

variable (answer : (action : Action) → σ → action.Answer × σ)

/-- Every run is one of the courses of the program. -/
theorem course_events (program : Program α) (state : σ) :
    program.Course (program.events answer state) (program.run answer state).1 :=
  trace_seen answer program state

/-- What holds of every answer to an action holds of every event of a run. -/
theorem forall_mem_events {P : Event → Prop}
    (h : ∀ action state, P ⟨action, (answer action state).1⟩) (program : Program α) (state : σ) :
    ∀ event ∈ program.events answer state, P event :=
  forall_mem_seen answer (fun action state => List.forall_mem_singleton.2 (h action state))
    program state

/-- All that is seen of a run is seen of its events. -/
theorem seen_eq_flatMap {ι : Type} (view : View ι) (program : Program α) (state : σ) :
    program.seen view answer state =
      (program.events answer state).flatMap fun event => view event.action event.answer := by
  induction program generalizing state with
  | done | fail => rfl
  | act action next ih => exact congrArg _ (ih _ _)

end Runs

/-! ## Courses of actions -/

section Actions

variable {events : List Event}

/-- A call is one event, and its reply is the outcome. -/
@[simp]
theorem course_call {request : Call} {outcome : Except Fault request.Reply} :
    (call request).Course events outcome ↔ events = [⟨.call request, outcome⟩] := by
  constructor
  · intro h
    obtain ⟨reply, rfl, rfl⟩ := trace_take.1 h
    rfl
  · rintro rfl
    exact trace_take.2 ⟨outcome, rfl, rfl⟩

/-- A line for the user is one event, which does not fail. -/
@[simp]
theorem course_log {line : String} {outcome : Except Fault Unit} :
    (log line).Course events outcome ↔ events = [⟨.log line, ()⟩] ∧ outcome = .ok () :=
  trace_log

/-- A program that goes on after a line for the user always goes on. -/
theorem course_log_bind {line : String} {next : Unit → Program β} {outcome : Except Fault β} :
    ((log line).bind next).Course events outcome ↔
      ∃ rest, events = ⟨.log line, ()⟩ :: rest ∧ (next ()).Course rest outcome :=
  trace_log_bind

/-- A program that goes on after a reading of the clock goes on with that. -/
theorem course_readClock_bind {next : Binary64 → Program β} {outcome : Except Fault β} :
    (readClock.bind next).Course events outcome ↔
      ∃ time rest, events = ⟨.readClock, time⟩ :: rest ∧ (next time).Course rest outcome :=
  trace_take_bind

/-- A program that goes on after a suffix is drawn goes on with that. -/
theorem course_drawSuffix_bind {next : String → Program β} {outcome : Except Fault β} :
    (drawSuffix.bind next).Course events outcome ↔
      ∃ suffix rest, events = ⟨.drawSuffix, suffix⟩ :: rest ∧ (next suffix).Course rest outcome :=
  trace_take_bind

/-- A program that goes on after a call is over if the call fails. -/
theorem course_call_bind {request : Call} {next : request.Reply → Program β}
    {outcome : Except Fault β} :
    ((call request).bind next).Course events outcome ↔
      (∃ fault, events = [⟨.call request, .error fault⟩] ∧ outcome = .error fault) ∨
        ∃ reply rest, events = ⟨.call request, .ok reply⟩ :: rest ∧
          (next reply).Course rest outcome :=
  trace_answer_bind

/-- A program that goes on after a result is printed is over if the result is refused. -/
theorem course_print_bind {text : String} {next : Unit → Program β} {outcome : Except Fault β} :
    ((print text).bind next).Course events outcome ↔
      (∃ fault, events = [⟨.print text, .error fault⟩] ∧ outcome = .error fault) ∨
        ∃ done rest, events = ⟨.print text, .ok done⟩ :: rest ∧ (next done).Course rest outcome :=
  trace_answer_bind

/-- A program that looks for a file is over if it cannot find out. -/
theorem course_hasFile_bind {path : String} {next : Bool → Program β} {outcome : Except Fault β} :
    ((hasFile path).bind next).Course events outcome ↔
      (∃ fault, events = [⟨.hasFile path, .error fault⟩] ∧ outcome = .error fault) ∨
        ∃ found rest, events = ⟨.hasFile path, .ok found⟩ :: rest ∧
          (next found).Course rest outcome :=
  trace_answer_bind

end Actions

/-- A program has one course for each answers that it can get. -/
theorem Course.unique {program : Program α} {first first' last last' : List Event}
    {outcome outcome' : Except Fault α} (h : program.Course first outcome)
    (h' : program.Course first' outcome') (heq : first ++ last = first' ++ last') :
    first = first' ∧ last = last' ∧ outcome = outcome' := by
  induction program generalizing first first' with
  | done | fail =>
    obtain ⟨rfl, rfl⟩ := h
    obtain ⟨rfl, rfl⟩ := h'
    exact ⟨rfl, heq, rfl⟩
  | act action next ih =>
    obtain ⟨reply, rest, rfl, hrest⟩ := h
    obtain ⟨reply', rest', rfl, hrest'⟩ := h'
    -- Both start with the same answer, so they go on with the same program.
    obtain ⟨hevent, hlater⟩ := List.cons.inj heq
    cases hevent
    obtain ⟨rfl, hlast⟩ := ih reply hrest hrest' hlater
    exact ⟨rfl, hlast⟩

/-- All that is seen of a program is seen of its events. -/
theorem Course.trace {ι : Type} {view : View ι} {program : Program α} {events : List Event}
    {outcome : Except Fault α} (h : program.Course events outcome) :
    program.Trace view (events.flatMap fun event => view event.action event.answer) outcome := by
  induction program generalizing events with
  | done | fail =>
    obtain ⟨rfl, rfl⟩ := h
    exact ⟨rfl, rfl⟩
  | act action next ih =>
    obtain ⟨reply, rest, rfl, hrest⟩ := h
    exact ⟨reply, _, rfl, ih reply hrest⟩

/-- The calls of a course are those of a dialogue with the same outcome. -/
theorem Course.dialogue {program : Program α} {events : List Event} {outcome : Except Fault α}
    (h : program.Course events outcome) : ∃ exchanges, program.Dialogue exchanges outcome ∧
      exchanges.map Exchange.call = callsIn events :=
  ⟨_, h.trace, map_call_exchanges events⟩

/-- All events of a course are allowed. -/
theorem Only.forall_mem_course {allowed : Action → Prop} {program : Program α}
    {events : List Event} {outcome : Except Fault α} (h : program.Only allowed)
    (hcourse : program.Course events outcome) : ∀ event ∈ events, allowed event.action :=
  h.forall_mem_trace (fun _ haction _ => List.forall_mem_singleton.2 haction) hcourse

/-- Whoever keeps to some parties prints nothing. -/
theorem printedIn_eq_nil {parties : List Party} {events : List Event}
    (h : ∀ event ∈ events, Within parties event.action) : printedIn events = [] := by
  refine List.flatMap_eq_nil_iff.2 fun event hmem => ?_
  have hwithin := h event hmem
  obtain ⟨action, answer⟩ := event
  cases action with
  | print => exact hwithin.elim
  | _ => rfl

/-- Whoever keeps to some parties calls no other ones. -/
theorem forall_mem_callsIn {parties : List Party} {events : List Event}
    (h : ∀ event ∈ events, Within parties event.action) :
    ∀ request ∈ callsIn events, request.party ∈ parties := by
  intro request hmem
  obtain ⟨reply, hevent⟩ := mem_callsIn.1 hmem
  exact h _ hevent

/-! ## How programs fail -/

section Failures

variable {sort : Event → Prop} {report : List Event → Event → Fault → Prop}

/-- Events of the given sort end the program, with a fault that `report` allows after the events
before. -/
def EndsBy (sort : Event → Prop) (report : List Event → Event → Fault → Prop)
    (program : Program α) : Prop :=
  ∀ ⦃events outcome⦄, program.Course events outcome →
    ∀ ⦃before event⦄, before ++ [event] <+: events → sort event →
      ∃ fault, outcome = .error fault ∧ report before event fault

/-- Nothing ends a program whose events are of another sort. -/
theorem endsBy_of_only {allowed : Action → Prop} {program : Program α} (h : program.Only allowed)
    (hsort : ∀ event, allowed event.action → ¬ sort event) : program.EndsBy sort report := by
  intro events outcome hcourse before event hplace hevent
  have hmem : event ∈ events := hplace.subset (List.mem_append_right _ List.mem_cons_self)
  exact absurd hevent (hsort event (h.forall_mem_course hcourse event hmem))

/-- Nothing ends a program that is done. -/
theorem endsBy_done (value : α) : (done value).EndsBy sort report :=
  endsBy_of_only (only_done value : Only (fun _ => False) _) fun _ h => h.elim

/-- Nothing that happens ends a computation. -/
theorem endsBy_ofExcept (result : Except Fault α) : (ofExcept result).EndsBy sort report :=
  endsBy_of_only (only_ofExcept result : Only (fun _ => False) _) fun _ h => h.elim

/-- A program that ends by its first event fails at once, and goes on after other events. -/
theorem endsBy_act {action : Action} {next : action.Answer → Program α}
    (hend : ∀ answer, sort ⟨action, answer⟩ → ∀ events outcome,
      (next answer).Course events outcome →
        ∃ fault, outcome = .error fault ∧ report [] ⟨action, answer⟩ fault)
    (hnext : ∀ answer,
      (next answer).EndsBy sort fun before => report ([⟨action, answer⟩] ++ before)) :
    (act action next).EndsBy sort report := by
  rintro events outcome ⟨answer, rest, rfl, hrest⟩ before event hplace hevent
  cases before with
  | nil =>
    obtain ⟨rfl, -⟩ := List.cons_prefix_cons.1 hplace
    exact hend answer hevent rest outcome hrest
  | cons first later =>
    obtain ⟨rfl, hlater⟩ := List.cons_prefix_cons.1 hplace
    exact hnext answer hrest hlater hevent

/-- More faults may be allowed. -/
theorem EndsBy.mono {report' : List Event → Event → Fault → Prop} {program : Program α}
    (h : program.EndsBy sort report)
    (hreport : ∀ before event fault, report before event fault → report' before event fault) :
    program.EndsBy sort report' := by
  intro events outcome hcourse before event hplace hevent
  obtain ⟨fault, heq, hfault⟩ := h hcourse hplace hevent
  exact ⟨fault, heq, hreport before event fault hfault⟩

/-- What follows a program comes after the events of a course that was done. -/
theorem EndsBy.bind {program : Program α} {next : α → Program β} (h : program.EndsBy sort report)
    (hnext : ∀ value first, program.Course first (.ok value) →
      (next value).EndsBy sort fun before => report (first ++ before)) :
    (program.bind next).EndsBy sort report := by
  intro events outcome hcourse before event hplace hevent
  rcases trace_bind.1 hcourse with
    ⟨fault, hfail, rfl⟩ | ⟨value, first, second, rfl, hfirst, hsecond⟩
  · obtain ⟨report, heq, hreport⟩ := h hfail hplace hevent
    exact ⟨report, congrArg _ (Except.error.inj heq), hreport⟩
  rcases prefix_append_cases hplace with hbefore | ⟨later, rfl, hlater⟩
  · -- The first part would have failed.
    obtain ⟨report, heq, -⟩ := h hfirst hbefore hevent
    cases heq
  · exact hnext value first hfirst hsecond hlater hevent

/-- A program that computes something first. -/
theorem endsBy_ofExcept_bind {result : Except Fault α} {next : α → Program β}
    (hnext : ∀ value, result = .ok value → (next value).EndsBy sort report) :
    ((ofExcept result).bind next).EndsBy sort report := by
  refine (endsBy_ofExcept result).bind fun value first hfirst => ?_
  obtain ⟨rfl, hvalue⟩ := trace_ofExcept.1 hfirst
  exact hnext value hvalue.symm

/-- A call may end the program by failing or by a reply with which the program fails. -/
theorem endsBy_call_bind {request : Call} {next : request.Reply → Program α}
    (hfail : ∀ fault, sort ⟨.call request, .error fault⟩ →
      report [] ⟨.call request, .error fault⟩ fault)
    (hmalformed : ∀ reply, sort ⟨.call request, .ok reply⟩ → ∃ fault, next reply = fail fault ∧
      report [] ⟨.call request, .ok reply⟩ fault)
    (hnext : ∀ reply,
      (next reply).EndsBy sort fun before => report ([⟨.call request, .ok reply⟩] ++ before)) :
    ((call request).bind next).EndsBy sort report := by
  refine endsBy_act (fun answer hsort events outcome hcourse => ?_) fun answer => ?_
  · cases answer with
    | error fault => exact ⟨fault, hcourse.2, hfail fault hsort⟩
    | ok reply =>
      obtain ⟨fault, hnext, hreport⟩ := hmalformed reply hsort
      change (next reply).Course events outcome at hcourse
      rw [hnext] at hcourse
      exact ⟨fault, hcourse.2, hreport⟩
  · cases answer with
    | error fault => exact endsBy_ofExcept (.error fault)
    | ok reply => exact hnext reply

/-- Whoever rewords all faults of a program rewords those that it is ended with. -/
theorem EndsBy.recover_fail {program : Program α} {reword : Fault → Fault}
    (h : program.EndsBy sort report) :
    (program.recover fun fault => fail (reword fault)).EndsBy sort
      fun before event fault => ∃ cause, report before event cause ∧ fault = reword cause := by
  intro events outcome hcourse before event hplace hevent
  rcases trace_recover.1 hcourse with
    ⟨value, hvalue, -⟩ | ⟨cause, first, second, rfl, hfirst, rfl, rfl⟩
  · obtain ⟨fault, heq, -⟩ := h hvalue hplace hevent
    cases heq
  · rw [List.append_nil] at hplace
    obtain ⟨fault, heq, hreport⟩ := h hfirst hplace hevent
    obtain rfl := Except.error.inj heq
    exact ⟨reword cause, rfl, cause, hreport, rfl⟩

end Failures

/-- The program fails by what fails in it: a failing event ends it with its fault, and it fails with
no other fault but an excused one. -/
structure FailsBy (excused : Fault → Prop) (program : Program α) : Prop where
  reported : program.EndsBy (fun event => ∃ fault, event.Raises fault) fun _ => Event.Raises
  caused : ∀ {events fault}, program.Course events (.error fault) →
    excused fault ∨ ∃ event ∈ events, event.Raises fault

section Causes

variable {excused : Fault → Prop}

/-- A computation that fails has to be excused. -/
theorem failsBy_ofExcept {result : Except Fault α}
    (h : ∀ fault, result = .error fault → excused fault) : (ofExcept result).FailsBy excused where
  reported := endsBy_ofExcept result
  caused hcourse := .inl (h _ (trace_ofExcept.1 hcourse).2.symm)

/-- A program that is done has not failed. -/
theorem failsBy_done (value : α) : (done value).FailsBy excused := by
  change (ofExcept (.ok value)).FailsBy excused
  exact failsBy_ofExcept fun _ h => nomatch h

/-- A program may fail with an excused fault. -/
theorem failsBy_fail {fault : Fault} (h : excused fault) :
    (fail fault : Program α).FailsBy excused := by
  change (ofExcept (.error fault)).FailsBy excused
  exact failsBy_ofExcept fun _ heq => Except.error.inj heq ▸ h

/-- An action fails with the fault that is answered to it. -/
theorem failsBy_take (action : Action) : (take action).FailsBy excused where
  reported :=
    endsBy_act (fun _ ⟨fault, hraises⟩ _ _ hcourse =>
      ⟨fault, (trace_ofExcept.1 hcourse).2.trans hraises, hraises⟩) fun _ => endsBy_ofExcept _
  caused hcourse := by
    obtain ⟨answer, rfl, houtcome⟩ := trace_take.1 hcourse
    exact .inr ⟨_, List.mem_cons_self, houtcome.symm⟩

namespace FailsBy

variable {program : Program α} {events : List Event}

/-- A program that goes on fails by what fails in its parts. -/
theorem bind {next : α → Program β} (h : program.FailsBy excused)
    (hnext : ∀ value, (next value).FailsBy excused) : (program.bind next).FailsBy excused where
  reported := h.reported.bind fun value _ _ => (hnext value).reported
  caused hcourse := by
    rcases trace_bind.1 hcourse with
      ⟨other, hfirst, heq⟩ | ⟨value, first, second, rfl, -, hsecond⟩
    · cases heq
      exact h.caused hfirst
    · rcases (hnext value).caused hsecond with hexcused | ⟨event, hmem, hreport⟩
      · exact .inl hexcused
      · exact .inr ⟨event, List.mem_append_right _ hmem, hreport⟩

/-- The program fails with the fault of any of its events. -/
theorem error_of_raises {outcome : Except Fault α} {event : Event} {fault : Fault}
    (h : program.FailsBy excused) (hcourse : program.Course events outcome)
    (hmem : event ∈ events) (hraises : event.Raises fault) : outcome = .error fault := by
  obtain ⟨before, after, rfl⟩ := List.append_of_mem hmem
  have hplace : before ++ [event] <+: before ++ event :: after := ⟨after, by simp⟩
  obtain ⟨report, rfl, hreport⟩ := h.reported hcourse hplace ⟨fault, hraises⟩
  obtain rfl := Except.error.inj (hraises.symm.trans hreport)
  rfl

/-- Nothing fails in a program that is done. -/
theorem not_raises_of_ok {value : α} (h : program.FailsBy excused)
    (hcourse : program.Course events (.ok value)) : ∀ event ∈ events, ∀ fault,
      ¬ event.Raises fault :=
  fun _ hmem _ hraises => nomatch h.error_of_raises hcourse hmem hraises

/-- Whatever fails in a program that fails has the fault of the program. -/
theorem eq_of_raises {fault : Fault} (h : program.FailsBy excused)
    (hcourse : program.Course events (.error fault)) : ∀ event ∈ events, ∀ cause,
      event.Raises cause → cause = fault :=
  fun _ hmem _ hraises => (Except.error.inj (h.error_of_raises hcourse hmem hraises)).symm

end FailsBy

end Causes

/-- Where no files are looked after and nothing is printed, only a call can fail. -/
theorem eq_call_of_raises {parties : List Party} {event : Event} {fault : Fault}
    (hwithin : Within parties event.action) (hfiles : .authorization ∉ parties)
    (hraises : event.Raises fault) :
    ∃ request, event = ⟨.call request, .error fault⟩ ∧ request.party ∈ parties := by
  obtain ⟨action, answer⟩ := event
  cases action with
  | call request =>
    obtain rfl : answer = .error fault := hraises
    exact ⟨request, rfl, hwithin⟩
  | hasFile | makeFolder | openFile | serialize | writeFile => exact absurd hwithin hfiles
  | print => exact hwithin.elim
  | _ => cases hraises

end Program

end DeckPlan
