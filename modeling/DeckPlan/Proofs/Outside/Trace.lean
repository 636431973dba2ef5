import DeckPlan.Outside.Program

/-!
# What is seen of a program

A view says what is seen of an action with its answer: the call with its reply, the text that is
printed, or all of it.

* `Program.seen` is what is seen of one run, for any way to answer the program.
* `Program.Trace` says what can be seen of a program at all, and with which outcome, when nothing is
  known of the outside. Every run has such a trace (`trace_seen`).

`trace_bind` and the lemmas after it take the trace of a program apart along the program, so what a
program does is proved of all traces and holds of every run. They hold for every view.
-/

namespace DeckPlan

/-- What is seen of an action with its answer. -/
abbrev View (ι : Type) : Type :=
  (action : Action) → action.Answer → List ι

namespace Program

variable {α β γ ι σ : Type} {view : View ι}

/-- What is seen of a run where `answer` answers the actions from a state. -/
def seen (view : View ι) (answer : (action : Action) → σ → action.Answer × σ) :
    Program α → σ → List ι
  | done _, _ => []
  | fail _, _ => []
  | act action next, state =>
    let (reply, state) := answer action state
    view action reply ++ (next reply).seen view answer state

/-- This is seen of the program, and this is its outcome, if the outside gives certain answers. -/
def Trace (view : View ι) : Program α → List ι → Except Fault α → Prop
  | done value, items, outcome => items = [] ∧ outcome = .ok value
  | fail fault, items, outcome => items = [] ∧ outcome = .error fault
  | act action next, items, outcome =>
    ∃ reply rest, items = view action reply ++ rest ∧ (next reply).Trace view rest outcome

section Runs

variable (answer : (action : Action) → σ → action.Answer × σ)

/-- Every run is one of the traces of the program. -/
theorem trace_seen (program : Program α) (state : σ) :
    program.Trace view (program.seen view answer state) (program.run answer state).1 := by
  induction program generalizing state with
  | done value => exact ⟨rfl, rfl⟩
  | fail fault => exact ⟨rfl, rfl⟩
  | act action next ih => exact ⟨(answer action state).1, _, rfl, ih _ _⟩

/-- What holds of all that is seen of an answer holds of all that is seen of a run. -/
theorem forall_mem_seen {P : ι → Prop}
    (h : ∀ action state, ∀ item ∈ view action (answer action state).1, P item)
    (program : Program α) (state : σ) : ∀ item ∈ program.seen view answer state, P item := by
  induction program generalizing state with
  | done | fail => exact fun _ hmem => nomatch hmem
  | act action next ih => exact List.forall_mem_append.2 ⟨h action state, ih _ _⟩

/-- Of a program that goes on its first part is seen, and if that is done, what follows. -/
theorem seen_bind (program : Program α) (next : α → Program β) (state : σ) :
    (program.bind next).seen view answer state =
      program.seen view answer state ++
        match program.run answer state with
        | (.ok value, state) => (next value).seen view answer state
        | (.error _, _) => [] := by
  induction program generalizing state with
  | done => rfl
  | fail => rfl
  | act action rest ih =>
    simp only [bind, seen, run, List.append_assoc]
    rw [ih]

end Runs

/-! ## Traces of composed programs -/

section Composition

variable {items : List ι}

@[simp]
theorem trace_done {value : α} {outcome : Except Fault α} :
    (done value).Trace view items outcome ↔ items = [] ∧ outcome = .ok value :=
  Iff.rfl

@[simp]
theorem trace_fail {fault : Fault} {outcome : Except Fault α} :
    (fail fault).Trace view items outcome ↔ items = [] ∧ outcome = .error fault :=
  Iff.rfl

/-- Nothing is seen of a computation. -/
@[simp]
theorem trace_ofExcept {result outcome : Except Fault α} :
    (ofExcept result).Trace view items outcome ↔ items = [] ∧ outcome = result := by
  cases result <;> exact Iff.rfl

/-- One action is seen with its answer, and the answer decides the outcome. -/
theorem trace_take {action : Action} {outcome : Except Fault action.Value} :
    (take action).Trace view items outcome ↔
      ∃ answer, items = view action answer ∧ outcome = action.result answer := by
  constructor
  · rintro ⟨answer, rest, rfl, h⟩
    obtain ⟨rfl, rfl⟩ := trace_ofExcept.1 h
    exact ⟨answer, List.append_nil _, rfl⟩
  · rintro ⟨answer, rfl, rfl⟩
    exact ⟨answer, [], (List.append_nil _).symm, trace_ofExcept.2 ⟨rfl, rfl⟩⟩

/-- A program that goes on either fails in its first part, or its first part is seen before the
second. -/
theorem trace_bind {program : Program α} {next : α → Program β} {outcome : Except Fault β} :
    (program.bind next).Trace view items outcome ↔
      (∃ fault, program.Trace view items (.error fault) ∧ outcome = .error fault) ∨
        ∃ value first second, items = first ++ second ∧
          program.Trace view first (.ok value) ∧ (next value).Trace view second outcome := by
  -- What is seen of the first action comes in front of both forms that the rest can have.
  induction program generalizing items with
  | done value =>
    constructor
    · intro h
      exact .inr ⟨value, [], items, rfl, ⟨rfl, rfl⟩, h⟩
    · rintro (⟨fault, ⟨-, h⟩, -⟩ | ⟨value', first, second, rfl, ⟨rfl, h⟩, hnext⟩)
      · cases h
      · cases h
        exact hnext
  | fail fault =>
    constructor
    · rintro ⟨rfl, rfl⟩
      exact .inl ⟨fault, ⟨rfl, rfl⟩, rfl⟩
    · rintro (⟨fault', ⟨rfl, h⟩, rfl⟩ | ⟨value, first, second, rfl, ⟨-, h⟩, -⟩)
      · cases h
        exact ⟨rfl, rfl⟩
      · cases h
  | act action rest ih =>
    constructor
    · rintro ⟨reply, later, rfl, h⟩
      rcases (ih reply).1 h with ⟨fault, hfail, rfl⟩ | ⟨value, first, second, rfl, hfirst, hnext⟩
      · exact .inl ⟨fault, ⟨reply, later, rfl, hfail⟩, rfl⟩
      · exact .inr ⟨value, view action reply ++ first, second, (List.append_assoc _ _ _).symm,
          ⟨reply, first, rfl, hfirst⟩, hnext⟩
    · rintro (⟨fault, ⟨reply, later, rfl, hfail⟩, rfl⟩ |
        ⟨value, first, second, rfl, ⟨reply, later, rfl, hfirst⟩, hnext⟩)
      · exact ⟨reply, later, rfl, (ih reply).2 (.inl ⟨fault, hfail, rfl⟩)⟩
      · exact ⟨reply, later ++ second, List.append_assoc _ _ _,
          (ih reply).2 (.inr ⟨value, later, second, rfl, hfirst, hnext⟩)⟩

/-- A program that goes on with a computed value is over if the computation fails. -/
theorem trace_ofExcept_bind {result : Except Fault α} {next : α → Program β}
    {outcome : Except Fault β} :
    ((ofExcept result).bind next).Trace view items outcome ↔
      (∃ fault, result = .error fault ∧ items = [] ∧ outcome = .error fault) ∨
        ∃ value, result = .ok value ∧ (next value).Trace view items outcome := by
  cases result with
  | ok value => simp [ofExcept, bind]
  | error fault => simp [ofExcept, bind]

/-- Nothing more is seen where a value is only computed with. -/
theorem trace_bind_ofExcept {program : Program α} {compute : α → Except Fault β}
    {outcome : Except Fault β} :
    (program.bind fun value => ofExcept (compute value)).Trace view items outcome ↔
      ∃ result, program.Trace view items result ∧ outcome = result.bind compute := by
  rw [trace_bind]
  constructor
  · rintro (⟨fault, hfail, rfl⟩ | ⟨value, first, second, rfl, hfirst, hcompute⟩)
    · exact ⟨.error fault, hfail, rfl⟩
    · obtain ⟨rfl, rfl⟩ := trace_ofExcept.1 hcompute
      exact ⟨.ok value, (List.append_nil first).symm ▸ hfirst, rfl⟩
  · rintro ⟨result, hprogram, rfl⟩
    cases result with
    | error fault => exact .inl ⟨fault, hprogram, rfl⟩
    | ok value =>
      exact .inr ⟨value, items, [], (List.append_nil _).symm, hprogram,
        trace_ofExcept.2 ⟨rfl, rfl⟩⟩

/-- An action is seen with its answer, and what the program makes of the answer decides how it goes
on. -/
theorem trace_take_bind {action : Action} {next : action.Value → Program β}
    {outcome : Except Fault β} :
    ((take action).bind next).Trace view items outcome ↔
      ∃ answer rest, items = view action answer ++ rest ∧
        ((ofExcept (action.result answer)).bind next).Trace view rest outcome :=
  Iff.rfl

/-- A line for the user is always written. -/
theorem trace_log {line : String} {outcome : Except Fault Unit} :
    (log line).Trace view items outcome ↔ items = view (.log line) () ∧ outcome = .ok () :=
  trace_take.trans ⟨fun ⟨_, h⟩ => h, fun h => ⟨(), h⟩⟩

/-- A program that goes on after a line for the user always goes on. -/
theorem trace_log_bind {line : String} {next : Unit → Program β} {outcome : Except Fault β} :
    ((log line).bind next).Trace view items outcome ↔
      ∃ rest, items = view (.log line) () ++ rest ∧ (next ()).Trace view rest outcome :=
  trace_take_bind.trans ⟨fun ⟨_, h⟩ => h, fun h => ⟨(), h⟩⟩

/-- A program that acts first is over if the action fails. Here `shown` is what is seen of the
action, whose answer is the value or the fault. -/
theorem trace_answer_bind {shown : Except Fault α → List ι} {next : α → Program β}
    {outcome : Except Fault β} :
    (∃ answer rest, items = shown answer ++ rest ∧
        ((ofExcept answer).bind next).Trace view rest outcome) ↔
      (∃ fault, items = shown (.error fault) ∧ outcome = .error fault) ∨
        ∃ value rest, items = shown (.ok value) ++ rest ∧
          (next value).Trace view rest outcome := by
  constructor
  · rintro ⟨answer, rest, rfl, h⟩
    rcases trace_ofExcept_bind.1 h with ⟨fault, rfl, rfl, rfl⟩ | ⟨value, rfl, hnext⟩
    · exact .inl ⟨fault, List.append_nil _, rfl⟩
    · exact .inr ⟨value, rest, rfl, hnext⟩
  · rintro (⟨fault, rfl, rfl⟩ | ⟨value, rest, rfl, hnext⟩)
    · exact ⟨.error fault, [], (List.append_nil _).symm, rfl, rfl⟩
    · exact ⟨.ok value, rest, rfl, hnext⟩

/-- An attempt is seen as what is attempted, and has the outcome of that as its value. -/
theorem trace_attempt {program : Program α} {outcome : Except Fault (Except Fault α)} :
    program.attempt.Trace view items outcome ↔
      ∃ result, program.Trace view items result ∧ outcome = .ok result := by
  induction program generalizing items with
  | done value => simp [attempt, and_assoc]
  | fail fault => simp [attempt, and_assoc]
  | act action rest ih =>
    constructor
    · rintro ⟨reply, later, rfl, h⟩
      obtain ⟨result, hresult, rfl⟩ := (ih reply).1 h
      exact ⟨result, ⟨reply, later, rfl, hresult⟩, rfl⟩
    · rintro ⟨result, ⟨reply, later, rfl, hresult⟩, rfl⟩
      exact ⟨reply, later, rfl, (ih reply).2 ⟨result, hresult, rfl⟩⟩

/-- A program that goes on after an attempt sees the outcome, be it a failure or not. -/
theorem trace_attempt_bind {program : Program α} {next : Except Fault α → Program β}
    {outcome : Except Fault β} :
    (program.attempt.bind next).Trace view items outcome ↔
      ∃ result first second, items = first ++ second ∧ program.Trace view first result ∧
        (next result).Trace view second outcome := by
  simp only [trace_bind, trace_attempt]
  constructor
  · rintro (⟨fault, ⟨result, -, h⟩, -⟩ | ⟨value, first, second, rfl, ⟨result, hfirst, h⟩, hnext⟩)
    · cases h
    · obtain rfl := Except.ok.inj h
      exact ⟨value, first, second, rfl, hfirst, hnext⟩
  · rintro ⟨result, first, second, rfl, hfirst, hnext⟩
    exact .inr ⟨result, first, second, rfl, ⟨result, hfirst, rfl⟩, hnext⟩

/-- A program that recovers is done, or its handler goes on where it failed. -/
theorem trace_recover {program : Program α} {handler : Fault → Program α}
    {outcome : Except Fault α} :
    (program.recover handler).Trace view items outcome ↔
      (∃ value, program.Trace view items (.ok value) ∧ outcome = .ok value) ∨
        ∃ fault first second, items = first ++ second ∧
          program.Trace view first (.error fault) ∧
            (handler fault).Trace view second outcome := by
  rw [recover, trace_attempt_bind]
  constructor
  · rintro ⟨result, first, second, rfl, hfirst, hend⟩
    cases result with
    | ok value =>
      obtain ⟨rfl, rfl⟩ := hend
      exact .inl ⟨value, (List.append_nil first).symm ▸ hfirst, rfl⟩
    | error fault => exact .inr ⟨fault, first, second, rfl, hfirst, hend⟩
  · rintro (⟨value, hvalue, rfl⟩ | ⟨fault, first, second, rfl, hfirst, hhandler⟩)
    · exact ⟨.ok value, items, [], (List.append_nil _).symm, hvalue, rfl, rfl⟩
    · exact ⟨.error fault, first, second, rfl, hfirst, hhandler⟩

/-- A failure that is only worded anew is seen as before. -/
theorem trace_recover_fail {program : Program α} {reword : Fault → Fault}
    {outcome : Except Fault α} :
    (program.recover fun fault => fail (reword fault)).Trace view items outcome ↔
      ∃ result, program.Trace view items result ∧ outcome = result.mapError reword := by
  rw [trace_recover]
  constructor
  · rintro (⟨value, hvalue, rfl⟩ | ⟨fault, first, second, rfl, hfirst, rfl, rfl⟩)
    · exact ⟨.ok value, hvalue, rfl⟩
    · exact ⟨.error fault, (List.append_nil first).symm ▸ hfirst, rfl⟩
  · rintro ⟨result, hprogram, rfl⟩
    cases result with
    | ok value => exact .inl ⟨value, hprogram, rfl⟩
    | error fault =>
      exact .inr ⟨fault, items, [], (List.append_nil _).symm, hprogram, rfl, rfl⟩

end Composition

end Program

end DeckPlan
