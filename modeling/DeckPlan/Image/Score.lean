import DeckPlan.Text.Blank
import DeckPlan.Text.Case
import DeckPlan.Text.Occurrence

/-!
# How well an image fits

An image is scored by how many terms of the query its texts mention, in any letter case. A term
of a query is a run of at least two characters without blanks and separators.
-/

namespace DeckPlan.Image

/-- The signs that separate terms. -/
def separators : List Char :=
  ",.-_()[]'\":;!?&".toList

/-- Whether a character separates terms. -/
def isSeparator (c : Char) : Bool :=
  Text.isBlank c || separators.contains c

/-- The terms of a query, in lower case and in order; a term can stand there repeatedly. -/
def terms (query : String) : List String :=
  let pieces := (Text.lower query.toList).splitOnP isSeparator
  (pieces.filter fun piece => 2 ≤ piece.length).map String.ofList

/-- The number of the terms that occur in the texts of an image. -/
def termScore (title snippet link : String) (terms : List String) : Nat :=
  let text := Text.lowered (" ".intercalate [title, snippet, link])
  terms.countP fun term => Text.occursIn term.toList text.toList

/-- Whether an address is one of an encrypted connection. -/
def isHttps (url : String) : Bool :=
  "https://".toList.isPrefixOf (Text.lower url.toList)

end DeckPlan.Image
