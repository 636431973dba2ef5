import DeckPlan.Markup.Span

/-!
# Segments of marked-up text

Topic summaries are written in a light markup: a line that starts with `• ` is a bullet, a line
that starts with `  ◦ ` is a bullet one level deeper, and `**` on both sides makes text bold.

`parse` turns such a text into segments of uniform formatting. The kind of a line is decided
first (`Line.of`), and bold spans are looked for in what is left of it. Between the segments of
one line and those of the next stands a segment that holds the line break alone.
-/

namespace DeckPlan.Markup

/-- A piece of text of uniform formatting. -/
structure Segment where
  /-- The text, without any markup. -/
  text : String
  /-- Whether the text is bold. -/
  bold : Bool := false
  /-- Whether the text belongs to a bullet. -/
  bullet : Bool := false
  /-- The depth of the bullet, zero for the outermost ones. -/
  level : Int := 0
  deriving DecidableEq, Repr

/-- A line without its bullet marker. -/
structure Line where
  /-- What follows the bullet marker, or all of a line without one. -/
  content : List Char
  /-- The depth of the bullet that the line is. -/
  bullet? : Option Nat
  deriving DecidableEq, Repr

/-- Takes the bullet marker off a line. -/
def Line.of : List Char → Line
  -- Only one marker is taken off: what follows may start with another one.
  | ' ' :: ' ' :: '◦' :: ' ' :: content => ⟨content, some 1⟩
  | '•' :: ' ' :: content => ⟨content, some 0⟩
  | content => ⟨content, none⟩

/-- The segments of a line: its bold and plain spans, with the bullet that the line is. -/
def Line.segments (line : Line) : List Segment :=
  (spans line.content).map fun span =>
    { text := String.ofList span.chars
      bold := span.bold
      bullet := line.bullet?.isSome
      level := (line.bullet?.getD 0 : Nat) }

/-- The segment between two lines. -/
def lineBreak : Segment :=
  { text := "\n" }

/-- The lines of a text. -/
def lines (raw : String) : List (List Char) :=
  raw.toList.splitOn '\n'

/-- The segments of a text, in order. -/
def parse (raw : String) : List Segment :=
  [lineBreak].intercalate ((lines raw).map fun line => (Line.of line).segments)

end DeckPlan.Markup
