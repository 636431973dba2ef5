import DeckPlan.CommandLine.WholeNumber
import DeckPlan.Image.Search
import DeckPlan.Outside.Environment
import DeckPlan.Text.Quoted
import DeckPlan.Topics.Report

/-!
# Options of the command line

Every option but the one for help takes one value, as the next argument or behind `=`. An option
may be cut to any beginning that no other option shares, and of a repeated option the last value
counts. The separator `--` behind `=` takes the value away and leaves the option empty.

* `classify` tells options, values and other arguments apart.
* `readArguments` goes through the arguments from the left and yields the options, a request for
  help, or what is wrong (`Misuse`).
-/

namespace DeckPlan.CommandLine

/-- The options. -/
inductive Flag where
  | help
  | subject | audience | tone | max | model
  | presentationId | sheetId
  | cseKey | cseCx
  | imgSize | imgType | imgColorType | imgDominant | imgRights | imgSafe
  | defaultImageUrl
  deriving DecidableEq, Repr

namespace Flag

/-- The options in the order in which they are listed. -/
def all : List Flag :=
  [help, subject, audience, tone, max, model, presentationId, sheetId, cseKey, cseCx, imgSize,
   imgType, imgColorType, imgDominant, imgRights, imgSafe, defaultImageUrl]

/-- How an option is written. -/
def name : Flag → String
  | help => "--help"
  | subject => "--subject"
  | audience => "--audience"
  | tone => "--tone"
  | max => "--max"
  | model => "--model"
  | presentationId => "--presentation-id"
  | sheetId => "--sheet-id"
  | cseKey => "--cse-key"
  | cseCx => "--cse-cx"
  | imgSize => "--img-size"
  | imgType => "--img-type"
  | imgColorType => "--img-color-type"
  | imgDominant => "--img-dominant"
  | imgRights => "--img-rights"
  | imgSafe => "--img-safe"
  | defaultImageUrl => "--default-image-url"

/-- What an option is called in messages. -/
def label : Flag → String
  | help => "-h/--help"
  | flag => flag.name

/-- The option with the given name. -/
def ofName? (name : String) : Option Flag :=
  all.find? fun flag => flag.name = name

/-- The options whose names begin with the given text. -/
def startingWith (start : String) : List Flag :=
  all.filter fun flag => start.toList.isPrefixOf flag.name.toList

end Flag

/-- What is wrong with the arguments. -/
inductive Misuse where
  /-- A beginning is shared by several options. -/
  | ambiguous (argument : String) (flags : List Flag)
  /-- An option lacks its value. -/
  | missingValue (flag : Flag)
  /-- An option has a value but takes none. -/
  | needlessValue (flag : Flag) (value : String)
  /-- The number of topics is no whole number. -/
  | notANumber (text : String)
  /-- There is no subject. -/
  | missingSubject
  /-- Some arguments belong to no option. -/
  | unrecognized (arguments : List String)
  deriving DecidableEq, Repr

/-- What is told to the user. -/
def Misuse.message : Misuse → String
  | ambiguous argument flags =>
    "ambiguous option: " ++ argument ++ " could match " ++ ", ".intercalate (flags.map Flag.name)
  | missingValue flag => "argument " ++ flag.label ++ ": expected one argument"
  | needlessValue flag value =>
    "argument " ++ flag.label ++ ": ignored explicit argument " ++ Text.quoted value
  | notANumber text => "argument --max: invalid int value: " ++ Text.quoted text
  | missingSubject => "the following arguments are required: --subject"
  | unrecognized arguments => "unrecognized arguments: " ++ " ".intercalate arguments

/-- What an argument is. -/
inductive Token where
  /-- An option, perhaps with its value behind `=`. -/
  | option (flag : Flag) (value : Option String)
  /-- An argument that can be the value of an option. -/
  | value (text : String)
  /-- An argument that looks like an option but is none. -/
  | unknown (text : String)
  /-- The argument `--`, after which there are no more options. -/
  | separator
  deriving DecidableEq, Repr

/-- Whether a text is a negative number: digits with at most one point among or before them. -/
def isNegativeNumber (s : List Char) : Bool :=
  match s with
  | '-' :: rest =>
    let rest := Text.withoutFinalBreak rest
    let decimals :=
      match rest.dropWhile Text.isDigit with
      | [] => rest
      | '.' :: decimals => decimals
      | _ => []
    !decimals.isEmpty && decimals.all Text.isDigit
  | _ => false

/-- The two parts of an argument around its first `=`. -/
def splitValue (argument : String) : String × Option String :=
  match Text.cut? ['='] argument.toList with
  | some (before, after) => (String.ofList before, some (String.ofList after))
  | none => (argument, none)

/-- What an argument is that starts with two dashes: an option by its name or by a beginning of it,
or else a value if it holds a space. -/
def classifyLong (argument : String) : Except Misuse Token :=
  let (name, value) := splitValue argument
  match Flag.ofName? name with
  | some flag => .ok (.option flag value)
  | none =>
    match Flag.startingWith name with
    | [flag] => .ok (.option flag value)
    | [] => .ok (if argument.toList.contains ' ' then .value argument else .unknown argument)
    | flags => .error (.ambiguous argument flags)

/-- The short form of help with more characters behind it: the letter may be repeated, and all else
is a value that help does not take. -/
def shortHelp (tail : List Char) : Token :=
  match tail, tail.dropWhile (· = 'h') with
  | _ :: _, [] => .option .help none
  | _, rest => .option .help (some (String.ofList rest))

/-- What an argument before any `--` is. -/
def classifyOne (argument : String) : Except Misuse Token :=
  match argument.toList with
  | '-' :: '-' :: _ => classifyLong argument
  | ['-', 'h'] => .ok (.option .help none)
  | '-' :: 'h' :: '=' :: tail => .ok (shortHelp tail)
  | '-' :: 'h' :: tail => .ok (shortHelp tail)
  | '-' :: c :: rest =>
    .ok (if isNegativeNumber ('-' :: c :: rest) || (c :: rest).contains ' ' then .value argument
      else .unknown argument)
  | _ => .ok (.value argument)

/-- What each of the arguments is. -/
def classify : List String → Except Misuse (List Token)
  | [] => .ok []
  | argument :: rest =>
    if argument = "--" then .ok (.separator :: rest.map .value)
    else do return (← classifyOne argument) :: (← classify rest)

/-- The settings of a run. -/
structure Options where
  subject : String
  audience : String
  tone : String
  /-- The greatest number of topics, unless the option for it is empty. -/
  maxTopics : Option Int
  /-- The name of the model; an empty list if the option for it is empty. -/
  model : Json
  /-- The presentation to write; empty if none is to be written. -/
  presentation : String
  /-- The spreadsheet for charts. -/
  spreadsheet : String
  /-- The key and the engine for the image search, unless the environment gives them. -/
  search : Image.SearchAccess
  filters : Image.Filters
  /-- The image for topics without a usable one. -/
  defaultImageUrl : String

/-- The image for topics without a usable one, unless the user names another. -/
def stockImageUrl : String :=
  "https://t3.ftcdn.net/jpg/05/79/68/24/360_F_579682465_CBq4AWAFmFT1otwioF5X327rCjkVICyH.jpg"

/-- The settings of a run without any options. -/
def Options.initial (env : Environment) : Options :=
  { subject := ""
    audience := ""
    tone := ""
    maxTopics := some Topics.maxTopics
    model := .str Topics.defaultModel
    presentation := ""
    spreadsheet := ""
    search := { key := "", engine := "" }
    filters := { size := "large", type := "photo", colorType := "color", safe := "active" }
    defaultImageUrl := (nonempty? env.defaultImageUrl).getD stockImageUrl }

/-- The settings after an option is given a text. -/
def Options.set (options : Options) (flag : Flag) (text : String) : Except Misuse Options :=
  let filters := options.filters
  let search := options.search
  match flag with
  | .help => .error (.needlessValue .help text)
  | .subject => .ok { options with subject := text }
  | .audience => .ok { options with audience := text }
  | .tone => .ok { options with tone := text }
  | .max =>
    match wholeNumber? text with
    | some n => .ok { options with maxTopics := some n }
    | none => .error (.notANumber text)
  | .model => .ok { options with model := .str text }
  | .presentationId => .ok { options with presentation := text }
  | .sheetId => .ok { options with spreadsheet := text }
  | .cseKey => .ok { options with search := { search with key := text } }
  | .cseCx => .ok { options with search := { search with engine := text } }
  | .imgSize => .ok { options with filters := { filters with size := text } }
  | .imgType => .ok { options with filters := { filters with type := text } }
  | .imgColorType => .ok { options with filters := { filters with colorType := text } }
  | .imgDominant => .ok { options with filters := { filters with dominantColor := text } }
  | .imgRights => .ok { options with filters := { filters with rights := text } }
  | .imgSafe => .ok { options with filters := { filters with safe := text } }
  | .defaultImageUrl => .ok { options with defaultImageUrl := text }

/-- The settings after an option is given a value, where the separator leaves the option empty. -/
def Options.give (options : Options) (flag : Flag) (value : String) : Except Misuse Options :=
  if value = "--" then
    match flag with
    | .help => options.set .help value
    | .max => .ok { options with maxTopics := none }
    | .model => .ok { options with model := .arr [] }
    | flag => options.set flag ""
  else options.set flag value

/-- What the arguments ask for. -/
inductive Order where
  /-- To show how the program is used. -/
  | help
  /-- A run with the given settings. -/
  | plan (options : Options)

/-- Goes through the arguments that are left, where `hasSubject` says whether the subject was given
and `extras` are the arguments passed over so far. -/
def readTokens (options : Options) (hasSubject : Bool) (extras : List String) :
    List Token → Except Misuse Order
  | [] =>
    if !hasSubject then .error .missingSubject
    else if extras.isEmpty then .ok (.plan options)
    else .error (.unrecognized extras)
  -- Help is shown at once, whatever else is wrong.
  | .option .help none :: _ => .ok .help
  | .option flag (some text) :: rest => do
    readTokens (← options.give flag text) (hasSubject || flag = .subject) extras rest
  | .option flag none :: .value text :: rest => do
    readTokens (← options.give flag text) (hasSubject || flag = .subject) extras rest
  | .option flag none :: _ => .error (.missingValue flag)
  | .value text :: rest => readTokens options hasSubject (extras ++ [text]) rest
  | .unknown text :: rest => readTokens options hasSubject (extras ++ [text]) rest
  | .separator :: rest => readTokens options hasSubject (extras ++ ["--"]) rest

/-- What the arguments ask for. -/
def readArguments (env : Environment) (arguments : List String) : Except Misuse Order := do
  readTokens (.initial env) false [] (← classify arguments)

end DeckPlan.CommandLine
