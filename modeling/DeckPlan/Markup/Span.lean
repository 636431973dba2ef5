/-!
# Bold spans

A bold span is written between two markers `**`. It ends at the first marker after its opening
one and holds no line break; a marker without a closing one on its line is plain text.

* `closing? s` finds the end of a span whose opening marker has just been read.
* `spans s` cuts a text into bold spans and the plain text between them. No plain span is empty
  and no two stand side by side.
* `unmarked s` is the text without the markers of its spans.
-/

namespace DeckPlan.Markup

/-- A piece of text that is bold or plain as a whole. -/
structure Span where
  /-- The characters, without markers. -/
  chars : List Char
  /-- Whether the piece is bold. -/
  bold : Bool
  deriving DecidableEq, Repr

/-- The text before the first marker, and what follows the marker; nothing if the line ends
before a marker. -/
def closing? : List Char → Option (List Char × List Char)
  | [] => none
  | '\n' :: _ => none
  | '*' :: '*' :: rest => some ([], rest)
  | c :: rest => (closing? rest).map fun (inner, after) => (c :: inner, after)

/-- What follows a span is shorter than the text it was found in. -/
theorem length_lt_of_closing? {s inner after : List Char} (h : closing? s = some (inner, after)) :
    after.length < s.length := by
  fun_induction closing? s generalizing inner with
  | case1 => simp at h
  | case2 => simp at h
  | case3 =>
    obtain ⟨-, rfl⟩ : [] = inner ∧ _ = after := by simpa using h
    simp only [List.length_cons]
    omega
  | case4 c rest _ _ ih =>
    obtain ⟨⟨inner', after'⟩, h', he⟩ := Option.map_eq_some_iff.1 h
    cases he
    have := ih h'
    simp; omega

/-- Puts a plain character before the spans of the text that follows it. -/
def consPlain (c : Char) : List Span → List Span
  | ⟨chars, false⟩ :: later => ⟨c :: chars, false⟩ :: later
  | later => ⟨[c], false⟩ :: later

/-- The bold spans of a text and the plain text between them, in order. -/
def spans (s : List Char) : List Span :=
  match s with
  | [] => []
  | '*' :: '*' :: rest =>
    match _h : closing? rest with
    | some (inner, after) => ⟨inner, true⟩ :: spans after
    -- Only the first star is plain for sure: the second one may belong to a later marker.
    | none => consPlain '*' (spans ('*' :: rest))
  | c :: rest => consPlain c (spans rest)
termination_by s.length
decreasing_by
  · have := length_lt_of_closing? _h
    simp; omega
  · simp
  · simp

/-- The text without the markers of its bold spans. -/
def unmarked (s : List Char) : List Char :=
  (spans s).flatMap Span.chars

end DeckPlan.Markup
