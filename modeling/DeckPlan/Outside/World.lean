import DeckPlan.Outside.FileTree
import DeckPlan.Outside.Program

/-!
# A scripted outside

An outside whose answers are fixed in advance: every operation has a queue of replies, and a
fallback for when the queue is empty. The clock, the drawn suffixes and the files are part of the
script too, and so is what fails beside calls (`World.refusal`): unless the script says otherwise,
it is the writing of a result that has no encoding. Running a program against the script
(`World.play`) records all calls and all that is written.
-/

namespace DeckPlan

/-- The fault of an action on an outside where only a text without an encoding is refused. -/
def encodingRefusal : Action → Option Fault
  | .print text => (Text.unencodable? text).map .unencodable
  | _ => none

/-- A scripted outside and the record of what was done to it. -/
structure World where
  /-- The replies that wait for the calls of each operation. -/
  replies : (kind : Call.Kind) → List (Except Fault kind.Reply)
  /-- The replies when none waits. -/
  fallback : (kind : Call.Kind) → kind.Reply
  /-- The readings of the clock to come; afterwards it reads zero. -/
  clock : List Binary64
  /-- The suffixes, by the number of those drawn before. -/
  suffix : Nat → String
  /-- The text that is kept of credentials. -/
  keptText : Credentials → String
  /-- The faults of actions other than calls, where they fail though the files allow them. -/
  refusal : Action → Option Fault := encodingRefusal
  /-- How many characters get into a file when its content cannot be written. -/
  reach : Nat := 0
  /-- The number of suffixes that were drawn. -/
  drawn : Nat := 0
  /-- The files. -/
  files : FileTree := {}
  /-- The calls that were made, in order. -/
  calls : List Call := []
  /-- The lines that were logged, in order. -/
  logged : List String := []
  /-- The results that were printed, in order. -/
  printed : List String := []

namespace World

/-- The queues after the first reply of one of them is taken. -/
def advance (replies : (kind : Call.Kind) → List (Except Fault kind.Reply)) (kind : Call.Kind) :
    (kind : Call.Kind) → List (Except Fault kind.Reply) :=
  fun other => if other = kind then (replies other).tail else replies other

/-- The next reply to a call of an operation. -/
def nextReply (world : World) (kind : Call.Kind) : Except Fault kind.Reply :=
  (world.replies kind).head?.getD (.ok (world.fallback kind))

/-- The result of an action that is not a call, unless the script refuses the action. -/
def allowed {α : Type} (world : World) (action : Action) (result : Except Fault α) :
    Except Fault α :=
  match world.refusal action with
  | some fault => .error fault
  | none => result

/-- Answers one action. -/
def answer : (action : Action) → World → action.Answer × World
  | .call request, world =>
    (world.nextReply request.kind,
      { world with
        replies := advance world.replies request.kind
        calls := world.calls ++ [request] })
  | .log line, world => ((), { world with logged := world.logged ++ [line] })
  | .print text, world =>
    match world.allowed (.print text) (.ok ()) with
    | .ok () => (.ok (), { world with printed := world.printed ++ [text] })
    | .error fault => (.error fault, world)
  | .readClock, world =>
    (world.clock.headD (.zero false), { world with clock := world.clock.tail })
  | .drawSuffix, world => (world.suffix world.drawn, { world with drawn := world.drawn + 1 })
  | .hasFile path, world => (world.allowed (.hasFile path) (world.files.has path), world)
  | .makeFolder path, world => (world.allowed (.makeFolder path) (.ok ()), world)
  | .openFile path, world =>
    let isFolder := world.files.isFolder (pathParts path)
    match world.allowed (.openFile path) (if isFolder then .error (.isFolder path) else .ok ()) with
    | .ok () => (.ok (), { world with files := world.files.write path "" })
    | .error fault => (.error fault, world)
  | .serialize credentials, world =>
    (world.allowed (.serialize credentials) (.ok (world.keptText credentials)), world)
  | .writeFile path content, world =>
    match world.allowed (.writeFile path content) (.ok ()) with
    | .ok () => (.ok (), { world with files := world.files.write path content })
    | .error fault =>
      -- What was written before the failure stays in the file.
      let start := String.ofList (content.toList.take world.reach)
      (.error ⟨fault, world.reach⟩, { world with files := world.files.write path start })

/-- Runs a program against the script. -/
def play {α : Type} (world : World) (program : Program α) : Except Fault α × World :=
  program.run answer world

/-- A script answers the first action of a program and goes on as the script that is left. -/
theorem play_act {α : Type} (world : World) (action : Action) (next : action.Answer → Program α) :
    world.play (.act action next) = (answer action world).2.play (next (answer action world).1) :=
  rfl

end World

end DeckPlan
