import DeckPlan.Text.Blank

/-!
# Override phrases

Phrases that try to talk a model out of its rules. They are recognised in any letter case and
taken out of the inputs, one phrase after the other (`withoutPhrases`). Case is ignored
character by character: three letters have further forms outside of ASCII (`otherForms`).
-/

namespace DeckPlan.Guard

/-- The phrases, in lower case and in the order in which they are taken out. -/
def overridePhrases : List String :=
  ["ignore previous instructions", "disregard previous", "override safety", "reveal credentials",
   "show secrets", "disable guardrails", "turn off safety"]

/-- The forms outside of ASCII of a lower-case letter. -/
def otherForms (letter : Char) : List Char :=
  if letter = 'i' then ['İ', 'ı']
  else if letter = 's' then ['ſ']
  else if letter = 'k' then ['\u212A']
  else []

/-- Whether a character is a form of a lower-case letter, a space or another sign of ASCII. -/
def isFormOf (letter c : Char) : Bool :=
  c = letter || c = letter.toUpper || (otherForms letter).contains c

/-- Whether a text starts with a phrase, in any letter case. -/
def startsWithPhrase : List Char → List Char → Bool
  | [], _ => true
  | _ :: _, [] => false
  | letter :: phrase, c :: rest => isFormOf letter c && startsWithPhrase phrase rest

/-- Whether a phrase occurs in a text, in any letter case. -/
def mentions (phrase : List Char) (s : List Char) : Bool :=
  startsWithPhrase phrase s ||
    match s with
    | [] => false
    | _ :: rest => mentions phrase rest

/-- The text without the occurrences of a phrase, which are looked for from the left. -/
def withoutPhrase (phrase : List Char) (s : List Char) : List Char :=
  match s with
  | [] => []
  | c :: rest =>
    -- An occurrence is never put together from what stood before and behind another one.
    if startsWithPhrase phrase (c :: rest) then
      withoutPhrase phrase (rest.drop (phrase.length - 1))
    else c :: withoutPhrase phrase rest
termination_by s.length
decreasing_by
  · simp only [List.length_drop, List.length_cons]
    omega
  · simp

/-- The text without any of the phrases and without blanks at its ends. -/
def withoutPhrases (s : List Char) : List Char :=
  Text.trim (overridePhrases.foldl (fun s phrase => withoutPhrase phrase.toList s) s)

/-- A string without override phrases and without blanks at its ends. -/
def sanitize (s : String) : String :=
  String.ofList (withoutPhrases s.toList)

end DeckPlan.Guard
