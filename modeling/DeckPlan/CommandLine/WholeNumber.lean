import DeckPlan.Json.Reader
import DeckPlan.Text.Blank
import DeckPlan.Text.Digit

/-!
# Whole numbers on the command line

A whole number may have a sign, blanks around it and single underscores between its digits, which
may be those of any script.
-/

namespace DeckPlan.CommandLine

/-- The blanks that may surround a number: all but the four ASCII separators. -/
def isPadding (c : Char) : Bool :=
  Text.isBlank c && !Text.within c (0x1C, 0x1F)

/-- The values of the digits of a text of digits and single underscores between them. -/
def digitValues? (s : List Char) : Option (List Nat) :=
  match s with
  | [] => none
  | [c] => (Text.digitValue? c).map fun value => [value]
  -- A digit has to follow the underscore, so none stands at the end or next to another one.
  | c :: '_' :: rest => do return (← Text.digitValue? c) :: (← digitValues? rest)
  | c :: rest => do return (← Text.digitValue? c) :: (← digitValues? rest)

/-- The number with the given digits. -/
def ofDigits (digits : List Nat) : Nat :=
  digits.foldl (fun n digit => 10 * n + digit) 0

/-- The number without a sign that a text writes, if it does not have too many digits. -/
def unsigned? (s : List Char) : Option Nat :=
  (digitValues? s).bind fun digits =>
    if digits.length ≤ Json.maxDigits then some (ofDigits digits) else none

/-- The whole number that a text writes. -/
def wholeNumber? (text : String) : Option Int :=
  match Text.trimOff isPadding text.toList with
  | '-' :: rest => (unsigned? rest).map fun n => -n
  | '+' :: rest => (unsigned? rest).map fun n => n
  | s => (unsigned? s).map fun n => n

end DeckPlan.CommandLine
