import DeckPlan.Markup.Segment

/-!
# Formatted text

A formatted text is plain text with ranges over it, counted in characters. `compile` joins
segments to one text and collects their ranges:

* every bold segment has a range of its own;
* segments of bullets that stand side by side share one range, with the level of the first.
-/

namespace DeckPlan.Markup

/-- The characters of a text from `start` up to but not including `stop`. -/
structure Range where
  start : Nat
  stop : Nat
  deriving DecidableEq, Repr

/-- A range of characters that is a bullet. -/
structure BulletRange extends Range where
  /-- The depth of the bullet. -/
  level : Int
  deriving DecidableEq, Repr

/-- A text with the ranges of it that are bold or bullets. -/
structure FormattedText where
  text : String
  bold : List Range
  bullets : List BulletRange
  deriving DecidableEq, Repr

/-- The text of all segments. -/
def joinText (segments : List Segment) : String :=
  String.ofList (segments.flatMap fun segment => segment.text.toList)

/-- The characters of a text are those of its segments, in order. -/
@[simp]
theorem toList_joinText (segments : List Segment) :
    (joinText segments).toList = segments.flatMap fun segment => segment.text.toList := by
  rw [joinText, String.toList_ofList]

/-- The ranges of the bold segments, where the first segment begins at `start`. -/
def boldRanges (start : Nat) : List Segment → List Range
  | [] => []
  | segment :: rest =>
    let stop := start + segment.text.length
    (if segment.bold then [⟨start, stop⟩] else []) ++ boldRanges stop rest

/-- The range of a run of bullet segments, given its start and level, that ends at `stop`. -/
def closeRun (run : Option (Nat × Int)) (stop : Nat) : List BulletRange :=
  run.toList.map fun (start, level) => { start, stop, level }

/-- The ranges of the runs of bullet segments, where the first segment begins at `start` and `run`
is the start and the level of the run before it. -/
def bulletRanges (start : Nat) (run : Option (Nat × Int)) : List Segment → List BulletRange
  | [] => closeRun run start
  | segment :: rest =>
    let stop := start + segment.text.length
    if segment.bullet then bulletRanges stop (some (run.getD (start, segment.level))) rest
    else closeRun run start ++ bulletRanges stop none rest

/-- Joins segments to one formatted text. -/
def compile (segments : List Segment) : FormattedText :=
  { text := joinText segments
    bold := boldRanges 0 segments
    bullets := bulletRanges 0 none segments }

/-- The text without bold markers and bullet markers. -/
def plainText (raw : String) : String :=
  let unmarkedLines := (unmarked raw.toList).splitOn '\n'
  String.ofList (['\n'].intercalate (unmarkedLines.map fun line => (Line.of line).content))

end DeckPlan.Markup
