import DeckPlan.Json.Access
import DeckPlan.Guard.Phrase
import DeckPlan.Text.Case
import DeckPlan.Text.Digit
import DeckPlan.Text.Letter

/-!
# The user's inputs

A presentation is described by its subject, its audience and its tone. `validate` cleans the
three, refuses those that hold no words or make no sense, and cuts them to a sane length.

* `isNumericOnly` holds of texts of digits, blanks and the signs that stand between digits.
* `isLikelyGibberish` holds of texts with fewer than three letters, with fewer than one vowel for
  five letters, or with at least two characters that go on with a run of four or more equal ones.
-/

namespace DeckPlan.Guard

/-- What a presentation is about, for whom and in which tone. -/
structure Inputs where
  subject : String
  audience : String := ""
  tone : String := ""
  deriving DecidableEq, Repr

/-- The greatest length of a subject. -/
def maxSubject : Nat := 120

/-- The greatest length of an audience. -/
def maxAudience : Nat := 160

/-- The greatest length of a tone. -/
def maxTone : Nat := 60

/-- Whether a character may stand in a text that holds only numbers. -/
def isNumericChar (c : Char) : Bool :=
  Text.isBlank c || Text.isDigit c || "._,:;-+()".toList.contains c

/-- Whether a text holds only numbers. -/
def isNumericOnly (s : String) : Bool :=
  !s.isEmpty && s.toList.all isNumericChar

/-- Whether the lower-case form of a character is a vowel. -/
def isVowel (c : Char) : Bool :=
  ["a", "e", "i", "o", "u", "y"].any fun vowel => Text.lowerChar c == vowel.toList

/-- The number of characters that are at least the fourth of equal ones in a row, where `run`
characters equal to `last` stand before the text. -/
def repeats (last : Option Char) (run : Nat) : List Char → Nat
  | [] => 0
  | c :: rest =>
    if some c = last then (if run + 1 ≥ 4 then 1 else 0) + repeats last (run + 1) rest
    else repeats (some c) 1 rest

/-- Whether a text probably makes no sense; the empty text does not count. -/
def isLikelyGibberish (s : String) : Bool :=
  let chars := s.toList
  let letters := chars.countP Text.isLetter
  let vowels := chars.countP isVowel
  !s.isEmpty && (letters < 3 || vowels * 5 < letters || 2 ≤ repeats none 0 chars)

/-- The first characters of a text; all of it if the length is not positive. -/
def truncate (s : String) (maxLength : Int) : String :=
  if maxLength ≤ 0 || s.length ≤ maxLength then s
  else String.ofList (s.toList.take maxLength.toNat)

/-- An input without override phrases and blanks at its ends. An input that is not given is empty,
and one that is given must be a text. -/
def cleanInput (input : Json) : Except Fault String :=
  (input.givenText "strip").map fun text => sanitize (Text.trimmed text)

/-- The inputs as they may be sent to a model, once they are clean, or why they are refused. -/
def judge (subject audience tone : String) : Except Fault Inputs :=
  let all := [subject, audience, tone]
  if subject.isEmpty then .error .emptySubject
  else if all.any isNumericOnly then .error .numericInput
  else if all.any isLikelyGibberish then .error .gibberishInput
  else .ok
    { subject := truncate subject maxSubject
      audience := truncate audience maxAudience
      tone := truncate tone maxTone }

/-- The inputs as they may be sent to a model, or why they are refused. -/
def validate (subject audience tone : Json) : Except Fault Inputs := do
  judge (← cleanInput subject) (← cleanInput audience) (← cleanInput tone)

end DeckPlan.Guard
