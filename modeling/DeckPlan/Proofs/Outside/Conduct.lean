import DeckPlan.Proofs.Outside.Dialogue

/-!
# What a program may do at all

`Program.Only allowed` says that a program takes allowed actions only, whatever the outside answers.
It is proved along the program, and holds of all that is seen of it (`Only.forall_mem_trace`).

A call is made to a `Party`. A program keeps to some parties (`Program.KeepsTo`) if it calls only
them and prints nothing. `Program.printed` is what a run prints.

A program cannot tell two outsides apart that answer what it may do alike (`Only.run_alike`), and
the same is seen of it on both (`Only.seen_alike`).
-/

namespace DeckPlan

/-- The parties that calls are made to. -/
inductive Party where
  | model
  /-- Time, which is waited for. -/
  | time
  | web
  | sheets (spreadsheet : String)
  | slides (presentation : String)
  | authorization
  deriving DecidableEq, Repr

/-- The party to which a call is made. -/
@[simp]
def Call.party : Call → Party
  | gemini .. | openai .. => .model
  | sleep _ => .time
  | webGet .. | webHead .. => .web
  | sheetsGet spreadsheet _ | sheetsUpdate spreadsheet _ | valuesClear spreadsheet _
  | valuesUpdate spreadsheet .. => .sheets spreadsheet
  | slidesGet presentation | slidesUpdate presentation _ => .slides presentation
  | loadServiceAccount .. | actFor .. | loadLogin .. | refreshLogin _ | loadClientSecrets ..
  | logIn _ | buildClient .. => .authorization

/-- What an action prints. A result that is refused is not printed, not even a part of it. -/
def Action.printed : View String
  | .print text, .ok () => [text]
  | _, _ => []

namespace Program

variable {α β σ : Type} {allowed : Action → Prop}

/-! ## Allowed actions -/

/-- The program takes allowed actions only, whatever is answered. -/
def Only (allowed : Action → Prop) : Program α → Prop
  | done _ | fail _ => True
  | act action next => allowed action ∧ ∀ reply, (next reply).Only allowed

namespace Only

/-- What is allowed may be widened. -/
theorem mono {allowed' : Action → Prop} {program : Program α} (h : program.Only allowed)
    (hallowed : ∀ action, allowed action → allowed' action) : program.Only allowed' := by
  induction program with
  | done | fail => trivial
  | act action next ih => exact ⟨hallowed action h.1, fun reply => ih reply (h.2 reply)⟩

/-- A program that goes on is allowed what its parts are. -/
theorem bind {program : Program α} {next : α → Program β} (h : program.Only allowed)
    (hnext : ∀ value, (next value).Only allowed) : (program.bind next).Only allowed := by
  induction program with
  | done value => exact hnext value
  | fail => trivial
  | act action rest ih => exact ⟨h.1, fun reply => ih reply (h.2 reply)⟩

/-- An attempt takes the actions of what is attempted. -/
theorem attempt {program : Program α} (h : program.Only allowed) :
    program.attempt.Only allowed := by
  induction program with
  | done | fail => trivial
  | act action rest ih => exact ⟨h.1, fun reply => ih reply (h.2 reply)⟩

/-- A program that recovers takes the actions of the program and of its handler. -/
theorem recover {program : Program α} {handler : Fault → Program α} (h : program.Only allowed)
    (hhandler : ∀ fault, (handler fault).Only allowed) :
    (program.recover handler).Only allowed := by
  refine h.attempt.bind fun result => ?_
  cases result with
  | ok => trivial
  | error fault => exact hhandler fault

/-- What is seen of allowed actions holds of all that is seen of the program. -/
theorem forall_mem_trace {ι : Type} {view : View ι} {P : ι → Prop} {program : Program α}
    {items : List ι} {outcome : Except Fault α} (h : program.Only allowed)
    (hview : ∀ action, allowed action → ∀ answer, ∀ item ∈ view action answer, P item)
    (htrace : program.Trace view items outcome) : ∀ item ∈ items, P item := by
  induction program generalizing items with
  | done | fail =>
    obtain ⟨rfl, -⟩ := htrace
    exact fun _ hmem => nomatch hmem
  | act action next ih =>
    obtain ⟨reply, rest, rfl, hrest⟩ := htrace
    exact List.forall_mem_append.2 ⟨hview action h.1 reply, ih reply (h.2 reply) hrest⟩

/-- All calls of a dialogue are allowed. -/
theorem forall_mem {program : Program α} {exchanges : List Exchange} {outcome : Except Fault α}
    (h : program.Only allowed) (hdialogue : program.Dialogue exchanges outcome) :
    ∀ exchange ∈ exchanges, allowed (.call exchange.call) := by
  refine h.forall_mem_trace (fun action haction reply exchange hmem => ?_) hdialogue
  cases action with
  | call request =>
    obtain rfl := List.mem_singleton.1 hmem
    exact haction
  | _ => cases hmem

end Only

/-- A program that is done takes no action. -/
theorem only_done (value : α) : (done value).Only allowed := trivial

/-- A program that fails takes no action. -/
theorem only_fail (fault : Fault) : (fail fault : Program α).Only allowed := trivial

/-- A computation takes no action. -/
theorem only_ofExcept (result : Except Fault α) : (ofExcept result).Only allowed := by
  cases result <;> trivial

/-- A program of one action is allowed what the action is. -/
theorem only_take {action : Action} (h : allowed action) : (take action).Only allowed :=
  ⟨h, fun _ => only_ofExcept _⟩

/-! ## Parties -/

/-- The action is no call to a party other than the given ones, and prints nothing. The files are
those of the logins and count as a part of the authorization, and the suffixes name what is new in a
presentation. -/
def Within (parties : List Party) : Action → Prop
  | .call request => request.party ∈ parties
  | .hasFile _ | .makeFolder _ | .openFile _ | .serialize _ | .writeFile .. =>
    .authorization ∈ parties
  | .drawSuffix => ∃ presentation, .slides presentation ∈ parties
  | .print _ => False
  | .log _ | .readClock => True

/-- The program calls the given parties only and prints nothing, whatever is answered. -/
def KeepsTo (parties : List Party) (program : Program α) : Prop :=
  program.Only (Within parties)

/-- A call to a party keeps to it. -/
theorem keepsTo_call {parties : List Party} {request : Call} (h : request.party ∈ parties) :
    (call request).KeepsTo parties :=
  only_take h

/-- A line for the user is always allowed. -/
theorem keepsTo_log {parties : List Party} (line : String) : (log line).KeepsTo parties :=
  only_take trivial

/-- A program that keeps to some parties keeps to more of them. -/
theorem KeepsTo.mono {parties parties' : List Party} {program : Program α}
    (h : program.KeepsTo parties) (hsubset : parties ⊆ parties') : program.KeepsTo parties' :=
  Only.mono h fun action haction => by
    cases action with
    | call | hasFile | makeFolder | openFile | serialize | writeFile => exact hsubset haction
    | drawSuffix => exact haction.imp fun _ hmem => hsubset hmem
    | _ => exact haction

/-! ## What is printed -/

/-- What a run prints where `answer` answers the actions from a state. -/
abbrev printed (answer : (action : Action) → σ → action.Answer × σ) :
    Program α → σ → List String :=
  seen Action.printed answer

section Printed

variable (answer : (action : Action) → σ → action.Answer × σ)

/-- Whoever keeps to some parties prints nothing. -/
theorem KeepsTo.printed_eq_nil {parties : List Party} {program : Program α}
    (h : program.KeepsTo parties) (state : σ) : program.printed answer state = [] := by
  refine List.eq_nil_iff_forall_not_mem.2 (Only.forall_mem_trace h
    (fun action haction reply text hmem => ?_) (trace_seen answer program state))
  cases action with
  | print => exact haction
  | _ => cases hmem

/-- A program prints nothing before it goes on, if its first part keeps to some parties. -/
theorem KeepsTo.printed_bind {parties : List Party} {program : Program α}
    (h : program.KeepsTo parties) (next : α → Program β) (state : σ) :
    (program.bind next).printed answer state =
      match program.run answer state with
      | (.ok value, state) => (next value).printed answer state
      | (.error _, _) => [] :=
  (seen_bind answer program next state).trans
    (congrArg (· ++ _) (h.printed_eq_nil answer state))

end Printed

/-! ## Outsides that answer alike -/

section Alike

variable {τ : Type} {R : σ → τ → Prop} {answer : (action : Action) → σ → action.Answer × σ}
  {answer' : (action : Action) → τ → action.Answer × τ}

/-- In states that `R` relates both outsides answer allowed actions alike, and `R` still relates the
states after that. -/
def AnswerAlike (allowed : Action → Prop) (R : σ → τ → Prop)
    (answer : (action : Action) → σ → action.Answer × σ)
    (answer' : (action : Action) → τ → action.Answer × τ) : Prop :=
  ∀ action, allowed action → ∀ state state', R state state' →
    (answer action state).1 = (answer' action state').1 ∧
      R (answer action state).2 (answer' action state').2

/-- A program that takes allowed actions only cannot tell the outsides apart. -/
theorem Only.run_alike {program : Program α} (h : program.Only allowed)
    (halike : AnswerAlike allowed R answer answer') {state : σ} {state' : τ}
    (hstate : R state state') :
    (program.run answer state).1 = (program.run answer' state').1 ∧
      R (program.run answer state).2 (program.run answer' state').2 := by
  induction program generalizing state state' with
  | done | fail => exact ⟨rfl, hstate⟩
  | act action next ih =>
    obtain ⟨hreply, hrelated⟩ := halike action h.1 state state' hstate
    rcases hanswer : answer action state with ⟨reply, after⟩
    rcases hanswer' : answer' action state' with ⟨reply', after'⟩
    rw [hanswer, hanswer'] at hreply hrelated
    obtain rfl : reply = reply' := hreply
    rw [run, run, hanswer, hanswer']
    exact ih reply (h.2 reply) hrelated

/-- The same is seen of it on both outsides. -/
theorem Only.seen_alike {ι : Type} {view : View ι} {program : Program α} (h : program.Only allowed)
    (halike : AnswerAlike allowed R answer answer') {state : σ} {state' : τ}
    (hstate : R state state') :
    program.seen view answer state = program.seen view answer' state' := by
  induction program generalizing state state' with
  | done | fail => rfl
  | act action next ih =>
    obtain ⟨hreply, hrelated⟩ := halike action h.1 state state' hstate
    rcases hanswer : answer action state with ⟨reply, after⟩
    rcases hanswer' : answer' action state' with ⟨reply', after'⟩
    rw [hanswer, hanswer'] at hreply hrelated
    obtain rfl : reply = reply' := hreply
    rw [seen, seen, hanswer, hanswer']
    exact congrArg (_ ++ ·) (ih reply (h.2 reply) hrelated)

/-- Of programs that go on from the same first part the same is seen if it is of what follows. -/
theorem Only.seen_bind_alike {ι : Type} {view : View ι} {program : Program α}
    {next next' : α → Program β} (h : program.Only allowed)
    (halike : AnswerAlike allowed R answer answer')
    (hnext : ∀ value state state', R state state' →
      (next value).seen view answer state = (next' value).seen view answer' state')
    {state : σ} {state' : τ} (hstate : R state state') :
    (program.bind next).seen view answer state = (program.bind next').seen view answer' state' := by
  obtain ⟨houtcome, hrelated⟩ := h.run_alike halike hstate
  rw [seen_bind, seen_bind, h.seen_alike halike hstate]
  refine congrArg (_ ++ ·) ?_
  rcases hrun : program.run answer state with ⟨outcome, after⟩
  rcases hrun' : program.run answer' state' with ⟨outcome', after'⟩
  rw [hrun, hrun'] at houtcome hrelated
  obtain rfl : outcome = outcome' := houtcome
  cases outcome with
  | error => rfl
  | ok value => exact hnext value after after' hrelated

end Alike

-- Otherwise the unifier runs programs to see what they do.
attribute [irreducible] Only

end Program

end DeckPlan
