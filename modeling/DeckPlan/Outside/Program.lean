import DeckPlan.Fault
import DeckPlan.Outside.Call

/-!
# Programs that act on the outside

A program is a tree: it is done, it fails, or it takes an action and goes on in a way that
depends on the answer. What an action does is left to whoever runs the program (`Program.run`),
so one program runs against the real outside, against a script, or against a model of a service.

* `Program.bind` continues a program that is done; failures pass through it.
* `Program.attempt` turns a failure into a value, after which a program can recover from it.
* `Program.take` takes one action, and its value is what the action yields (`Action.result`).
* `Program.run` answers every action from a state and yields the result and the last state.
* `run_bind` says how a continued program runs.
-/

namespace DeckPlan

/-- One step of a program on the outside. -/
inductive Action where
  /-- A call that may fail. -/
  | call (request : Call)
  /-- Writes a line for the user, apart from the results. -/
  | log (line : String)
  /-- Writes a result, which may fail. -/
  | print (text : String)
  /-- Reads a clock, in seconds from some fixed time. -/
  | readClock
  /-- Draws the ending of the names of new objects. -/
  | drawSuffix
  /-- Asks whether there is a file or a folder, which may be impossible to find out. -/
  | hasFile (path : String)
  /-- Makes a folder, if it is not there. -/
  | makeFolder (path : String)
  /-- Opens a file to write to it, which empties the file. -/
  | openFile (path : String)
  /-- Asks for the text that is to be kept of credentials. -/
  | serialize (credentials : Credentials)
  /-- Writes the content of a file that was opened. -/
  | writeFile (path content : String)

/-- Why a file was not written. -/
structure WriteFault where
  fault : Fault
  /-- How many characters of the content got into the file. -/
  written : Nat

namespace Action

/-- What an action answers. -/
@[reducible]
def Answer : Action → Type
  | .call request => Except Fault request.Reply
  | .log _ => Unit
  | .print _ | .makeFolder _ | .openFile _ => Except Fault Unit
  | .readClock => Binary64
  | .drawSuffix => String
  | .hasFile _ => Except Fault Bool
  | .serialize _ => Except Fault String
  | .writeFile .. => Except WriteFault Unit

/-- What an action yields if it does not fail. -/
@[reducible]
def Value : Action → Type
  | .call request => request.Reply
  | .log _ | .print _ | .makeFolder _ | .openFile _ | .writeFile .. => Unit
  | .readClock => Binary64
  | .drawSuffix | .serialize _ => String
  | .hasFile _ => Bool

/-- What a program makes of an answer: the value, or the fault that it fails with. -/
def result : (action : Action) → action.Answer → Except Fault action.Value
  | .call _, reply => reply
  | .log _, value | .readClock, value | .drawSuffix, value => .ok value
  | .print _, answer | .makeFolder _, answer | .openFile _, answer => answer
  | .hasFile _, answer | .serialize _, answer => answer
  | .writeFile .., answer => answer.mapError WriteFault.fault

end Action

/-- A program that yields a value of type `α` or fails. -/
inductive Program (α : Type) : Type where
  | done (value : α)
  | fail (fault : Fault)
  | act (action : Action) (next : action.Answer → Program α)

namespace Program

variable {α β σ : Type}

/-- Goes on with the value of a program. -/
def bind : Program α → (α → Program β) → Program β
  | done value, next => next value
  | fail fault, _ => fail fault
  | act action rest, next => act action fun answer => (rest answer).bind next

instance : Monad Program where
  pure := done
  bind := bind

/-- The program that makes a failure of the given one its value. -/
def attempt : Program α → Program (Except Fault α)
  | done value => done (.ok value)
  | fail fault => done (.error fault)
  | act action rest => act action fun answer => (rest answer).attempt

/-- The program that goes on with `handler` after a failure. -/
def recover (program : Program α) (handler : Fault → Program α) : Program α :=
  program.attempt.bind fun
    | .ok value => done value
    | .error fault => handler fault

/-- The value of a computation that acts on nothing outside. -/
def ofExcept : Except Fault α → Program α
  | .ok value => done value
  | .error fault => fail fault

/-- Takes one action. -/
def take (action : Action) : Program action.Value :=
  act action fun answer => ofExcept (action.result answer)

/-- Makes a call. -/
def call (request : Call) : Program request.Reply :=
  take (.call request)

/-- Writes a line for the user. -/
def log (line : String) : Program Unit :=
  take (.log line)

/-- Writes a result. -/
def print (text : String) : Program Unit :=
  take (.print text)

/-- Reads the clock. -/
def readClock : Program Binary64 :=
  take .readClock

/-- Draws the ending of the names of new objects. -/
def drawSuffix : Program String :=
  take .drawSuffix

/-- Asks whether there is a file or a folder. -/
def hasFile (path : String) : Program Bool :=
  take (.hasFile path)

/-- Makes a folder. -/
def makeFolder (path : String) : Program Unit :=
  take (.makeFolder path)

/-- Opens a file to write to it. -/
def openFile (path : String) : Program Unit :=
  take (.openFile path)

/-- The text that is to be kept of credentials. -/
def serialize (credentials : Credentials) : Program String :=
  take (.serialize credentials)

/-- Writes the content of a file that was opened. -/
def writeFile (path content : String) : Program Unit :=
  take (.writeFile path content)

/-- Runs a program where `answer` answers its actions from a state. -/
def run (answer : (action : Action) → σ → action.Answer × σ) :
    Program α → σ → Except Fault α × σ
  | done value, state => (.ok value, state)
  | fail fault, state => (.error fault, state)
  | act action next, state =>
    let (reply, state) := answer action state
    (next reply).run answer state

section Lemmas

variable (answer : (action : Action) → σ → action.Answer × σ)

@[simp]
theorem pure_eq_done (value : α) : (pure value : Program α) = done value := rfl

@[simp]
theorem bind_eq (program : Program α) (next : α → Program β) :
    program >>= next = program.bind next := rfl

/-- A program that goes on with its own value is the program. -/
theorem bind_done (program : Program α) : program.bind done = program := by
  induction program with
  | done => rfl
  | fail => rfl
  | act action next ih => simp [bind, ih]

/-- It does not matter how what follows is put together. -/
theorem bind_assoc {γ : Type} (program : Program α) (next : α → Program β)
    (last : β → Program γ) :
    (program.bind next).bind last = program.bind fun value => (next value).bind last := by
  induction program with
  | done => rfl
  | fail => rfl
  | act action rest ih => simp [bind, ih]

instance : LawfulMonad Program :=
  LawfulMonad.mk' Program (fun program => bind_done program) (fun _ _ => rfl) bind_assoc

/-- Running a continued program runs it and then, if it is done, what follows. -/
theorem run_bind (program : Program α) (next : α → Program β) (state : σ) :
    (program.bind next).run answer state =
      match program.run answer state with
      | (.ok value, state) => (next value).run answer state
      | (.error fault, state) => (.error fault, state) := by
  induction program generalizing state with
  | done => rfl
  | fail => rfl
  | act action rest ih => simp only [bind, run]; exact ih _ _

end Lemmas

end Program

end DeckPlan
