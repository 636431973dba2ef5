import DeckPlan.Text.Case.Table
import DeckPlan.Text.Case.Context

/-!
# Lower and upper case

Full case conversion of a text. Every character is mapped by itself (`lowerChar`, `upperChar`),
but for the capital sigma, whose lower-case form depends on its place: it is the final sigma at
the end of a word (`endsWord`) and the common one elsewhere.
-/

namespace DeckPlan.Text

namespace Case

/-- The characters that a table of runs and expansions maps a character to. -/
def mapChar (expansions : List (Nat × List Nat)) (runs : List Run) (c : Char) : List Char :=
  match expansions.lookup c.toNat with
  | some codes => codes.map Char.ofNat
  | none =>
    match runs.find? (Run.moves c) with
    | some run => [Char.ofNat (c.toNat + run.offset).toNat]
    | none => [c]

/-- Whether the nearest character that is not skipped has case. -/
def nextIsCased (s : List Char) : Bool :=
  match s.dropWhile isIgnorable with
  | [] => false
  | c :: _ => isCased c

end Case

/-- The lower-case form of a character by itself. -/
def lowerChar (c : Char) : List Char :=
  Case.mapChar Case.lowerExpansions Case.lowerRuns c

/-- The upper-case form of a character. -/
def upperChar (c : Char) : List Char :=
  Case.mapChar Case.upperExpansions Case.upperRuns c

/-- Whether a capital sigma between the two texts ends a word; the text before it is given from
its last character on. -/
def endsWord (before after : List Char) : Bool :=
  Case.nextIsCased before && !Case.nextIsCased after

/-- The lower-case form of a text, given what stands before it, the last character first. -/
def lowerAfter (before : List Char) : List Char → List Char
  | [] => []
  | c :: rest =>
    -- No other letter has a form that depends on what stands around it.
    (if c = 'Σ' then [if endsWord before rest then 'ς' else 'σ'] else lowerChar c) ++
      lowerAfter (c :: before) rest

/-- The lower-case form of a text. -/
def lower (s : List Char) : List Char :=
  lowerAfter [] s

/-- The upper-case form of a text. -/
def upper (s : List Char) : List Char :=
  s.flatMap upperChar

/-- The lower-case form of a string. -/
def lowered (s : String) : String :=
  String.ofList (lower s.toList)

/-- The upper-case form of a string. -/
def uppered (s : String) : String :=
  String.ofList (upper s.toList)

@[simp]
theorem toList_lowered (s : String) : (lowered s).toList = lower s.toList := by
  simp [lowered]

end DeckPlan.Text
