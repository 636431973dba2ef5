import DeckPlan.CommandLine.Pipeline
import DeckPlan.Outside.Wire

/-!
# The program

Runs the command line. Standard output holds the results and nothing else. Calls to services are
made by a host process, which reads standard error: every line there is an object of JSON. It holds
either a line for the user (`log`), or the name and the arguments of a call, which the host answers
by one line on standard input: the reply, or an object with the fields `error` (the class of a
fault) and `message`. The host looks after files in the same way.
-/

namespace DeckPlan

/-- Sends an object to the host. -/
def tellHost (fields : Fields) : IO Unit := do
  let channel ← IO.getStderr
  channel.putStrLn (Text.withoutHalves (Json.obj fields).compact)
  channel.flush

/-- Tells the user something, by way of the host. -/
def tellUser (line : String) : IO Unit :=
  tellHost [("log", .str line)]

/-- Sends a request to the host and waits for its answer. -/
def askHost (name : String) (arguments : Fields) : IO (Except String Json) := do
  tellHost [("call", .str name), ("args", .obj arguments)]
  let line ← (← IO.getStdin).getLine
  return (Json.read line).mapError fun problem => problem.message line

/-- The class of faults that a host names. -/
def hostFaultKind : String → Fault.Kind
  | "value" => .value
  | "file not found" => .fileNotFound
  | "connection" => .connection
  | "timeout" => .timeout
  | "web status" => .webStatus
  | _ => .runtime

/-- What the host answers, where `read` takes it from the JSON of the answer. -/
def hostReply {α : Type} (read : Json → α) (answer : Except String Json) : Except Fault α :=
  match answer with
  | .error message => .error (.reported .connection message)
  | .ok value =>
    let fields := objectFields value
    match textField? fields "error" with
    | some name =>
      .error (.reported (hostFaultKind name) ((textField? fields "message").getD ""))
    | none => .ok (read value)

/-- What the host answers to a request about a file or a folder. -/
def askAboutFile {α : Type} (name path : String) (read : Json → α) : IO (Except Fault α) := do
  return hostReply read (← askHost name [("path", .str path)])

/-- Writes a result to standard output, unless the text has no encoding. -/
def writeResult (text : String) : IO (Except Fault Unit) := do
  match Text.unencodable? text with
  | some part => return .error (.unencodable part)
  | none =>
    try
      IO.println text
      return .ok ()
    catch problem => return .error (.reported .runtime (toString problem))

/-- Takes one action. -/
def perform : (action : Action) → IO action.Answer
  | .call request => do
    return hostReply request.kind.readReply
      (← askHost request.kind.name request.arguments)
  | .log line => tellUser line
  | .print text => writeResult text
  | .readClock => return .ofRatio false (← IO.monoMsNow) 1000
  | .drawSuffix => return String.ofList (Text.hexDigits 8 (← IO.rand 0 0xFFFFFFFF))
  | .hasFile path => askAboutFile "file.exists" path Json.isGiven
  | .makeFolder path => askAboutFile "folder.make" path fun _ => ()
  | .openFile path => askAboutFile "file.open" path fun _ => ()
  | .serialize credentials => do
    return hostReply (fun reply => (textField? (objectFields reply) "text").getD "")
      (← askHost "auth.text" [("credentials", .str credentials.name)])
  | .writeFile path content => do
    let answer ← askHost "file.write" [("path", .str path), ("content", .str content)]
    -- The host writes a file as a whole or not at all.
    return (hostReply (fun _ => ()) answer).mapError fun fault => { fault, written := 0 }

/-- Takes the actions of a program one after the other. -/
def Program.perform {α : Type} : Program α → IO (Except Fault α)
  | done value => return .ok value
  | fail fault => return .error fault
  | act action next => do (next (← DeckPlan.perform action)).perform

/-- The settings from the environment of the process. -/
def readEnvironment : IO Environment := do
  return {
    googleApiKey := ← IO.getEnv "GOOGLE_API_KEY"
    geminiApiKey := ← IO.getEnv "GEMINI_API_KEY"
    openaiApiKey := ← IO.getEnv "OPENAI_API_KEY"
    credentialsPath := ← IO.getEnv "GOOGLE_APPLICATION_CREDENTIALS"
    impersonatedUser := ← IO.getEnv "GOOGLE_IMPERSONATE_USER"
    searchKey := ← IO.getEnv "CSE_API_KEY"
    searchEngine := ← IO.getEnv "CSE_CX"
    defaultImageUrl := ← IO.getEnv "DEFAULT_IMAGE_URL" }

/-- Tells the user how a run ended, and the exit code for it. -/
def report : Except Fault CommandLine.Outcome → IO UInt32
  | .ok .finished => return 0
  | .ok (.stopped reason) => do
    tellUser reason
    return 1
  | .ok (.misused misuse) => do
    tellUser ("error: " ++ misuse.message)
    return 2
  | .ok .helped => do
    IO.println ("options: " ++ " ".intercalate (CommandLine.Flag.all.map CommandLine.Flag.name))
    return 0
  | .error fault => do
    tellUser fault.message
    return 1

end DeckPlan

open DeckPlan in
/-- Runs the command line with the given arguments. -/
def main (arguments : List String) : IO UInt32 := do
  report (← (CommandLine.run (← readEnvironment) arguments).perform)
