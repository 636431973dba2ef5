import DeckPlan.Proofs.Markup.RoundTrip
import Mathlib.Data.List.Chain

/-!
# The only way to part a line

`IsParting pieces s` says what it means to part a text into bold and plain pieces, without going
through it from left to right: the pieces with their markers are the text, no plain piece is empty
or stands beside another one, and where a marker follows a piece it is the first one behind the
start of the piece (`UpToMarker`).

On one line there is exactly one such parting, and it is that of `spans`: `isParting_spans` says
that this is one, and `IsParting.eq_spans` that there is no other. Both follow the pieces from the
first to the last:

* `isParting_bold_cons_iff`, `isParting_plain_cons_iff`, `isParting_plain_iff`: what the first piece
  asks of the text;
* `spanless_or_exists_opens`: how a line can start;
* `spans_of_upToMarker`, `spans_of_spanless`: what `spans` makes of a plain piece.

The last section says the same of the segments of a line, of which each also tells the bullet that
the line is.
-/

namespace DeckPlan.Markup

/-- The text holds no marker and does not end with a star: a marker behind it is the first one. -/
def UpToMarker (chars : List Char) : Prop :=
  ¬ marker <:+: chars ∧ chars.getLast? ≠ some '*'

/-- The pieces part the text: those that are bold stand between markers, and the others are plain
text between two of them or at an end. -/
@[mk_iff]
structure IsParting (pieces : List Span) (s : List Char) : Prop where
  /-- The pieces with their markers are the text. -/
  marked : pieces.flatMap Span.marked = s
  /-- No plain piece is empty. -/
  nonempty : ∀ piece ∈ pieces, piece.bold = false → piece.chars ≠ []
  /-- No two plain pieces stand side by side. -/
  apart : pieces.IsChain fun piece next => piece.bold = true ∨ next.bold = true
  /-- The first marker in a bold piece is the one that closes it. -/
  closed : ∀ piece ∈ pieces, piece.bold = true → UpToMarker piece.chars
  /-- The first marker behind the start of a plain piece is the one that opens the next piece. -/
  opened : pieces.IsChain fun piece next =>
    piece.bold = false → next.bold = true → UpToMarker piece.chars
  /-- No part of a plain piece at the end is made of two markers with a text between them. -/
  tail : ∀ piece ∈ pieces.getLast?, piece.bold = false → ∀ before inner after,
    piece.chars ≠ before ++ marker ++ inner ++ marker ++ after

/-- A segment as a span, without what it says of its line. -/
def Segment.span (segment : Segment) : Span :=
  ⟨segment.text.toList, segment.bold⟩

/-! ## Texts before a marker -/

theorem upToMarker_nil : UpToMarker [] := by
  simp [UpToMarker, marker]

/-- A star may stand at the start unless a second one follows it, be it in the text or the first
one of the marker behind it. -/
theorem upToMarker_cons_iff {c : Char} {chars : List Char} :
    UpToMarker (c :: chars) ↔
      (c = '*' → (chars ++ marker).head? ≠ some '*') ∧ UpToMarker chars := by
  cases chars with
  | nil => simp [UpToMarker, marker, List.infix_cons_iff]
  | cons d chars =>
    -- A marker stands at the start or further on, and the last character stays the same.
    have hmarker : marker <+: c :: d :: chars ↔ c = '*' ∧ d = '*' := by
      simp [marker, eq_comm]
    rw [UpToMarker, UpToMarker, List.infix_cons_iff, hmarker, List.getLast?_cons_cons,
      List.cons_append, List.head?_cons]
    grind

/-- What `closing?` finds is the first marker. -/
theorem upToMarker_of_closing? {s inner after : List Char}
    (h : closing? s = some (inner, after)) : UpToMarker inner := by
  fun_induction closing? s generalizing inner with
  | case1 => simp at h
  | case2 => simp at h
  | case3 =>
    cases h
    exact upToMarker_nil
  | case4 c s _ hmarker ih =>
    obtain ⟨⟨inner', after'⟩, found, he⟩ := Option.map_eq_some_iff.1 h
    cases he
    refine upToMarker_cons_iff.2 ⟨?_, ih found⟩
    rintro rfl hhead
    -- What follows the star in `s` is `inner'` with the marker behind it.
    obtain ⟨rest, hrest⟩ := List.head?_eq_some_iff.1 hhead
    exact hmarker (rest ++ after) rfl (by rw [split_of_closing? found, hrest, List.cons_append])

/-- On a line, `closing?` finds the first marker. -/
theorem closing?_of_upToMarker {inner : List Char} (hbreak : '\n' ∉ inner)
    (h : UpToMarker inner) (after : List Char) :
    closing? (inner ++ marker ++ after) = some (inner, after) := by
  induction inner with
  | nil => rfl
  | cons c inner ih =>
    obtain ⟨hstar, h⟩ := upToMarker_cons_iff.1 h
    rw [List.mem_cons, not_or] at hbreak
    -- What follows the marker does not matter to the character behind `c`.
    have hhead : c = '*' → (inner ++ marker ++ after).head? ≠ some '*' := by
      rw [List.head?_append_of_ne_nil _ (by simp [marker])]
      exact hstar
    rw [List.cons_append, List.cons_append, closing?_cons (Ne.symm hbreak.1) hhead, ih hbreak.2 h]
    rfl

/-- On a line, a bold span reaches up to the first marker. -/
theorem isSpan_of_upToMarker {inner : List Char} (hbreak : '\n' ∉ inner) (h : UpToMarker inner)
    (after : List Char) : IsSpan (marker ++ inner ++ marker ++ after) inner after :=
  isSpan_iff.2 ⟨inner ++ marker ++ after, by simp [marker], closing?_of_upToMarker hbreak h after⟩

/-- The inside of a span goes up to the next two stars. -/
theorem IsSpan.upToMarker {s inner after : List Char} (h : IsSpan s inner after) :
    UpToMarker inner := by
  obtain ⟨rest, -, found⟩ := isSpan_iff.1 h
  exact upToMarker_of_closing? found

/-- A text that starts with a span starts with a marker. -/
theorem Opens.exists_eq {s : List Char} (h : Opens s) : ∃ rest, s = marker ++ rest := by
  obtain ⟨rest, rfl, -⟩ := opens_iff.1 h
  exact ⟨rest, rfl⟩

/-- No span starts in front of the first marker. -/
theorem not_opens_of_upToMarker {c : Char} {chars s : List Char} (h : UpToMarker (c :: chars))
    (hs : Opens s) : ¬ Opens (c :: (chars ++ s)) := by
  intro hopens
  obtain ⟨rest, rfl⟩ := hs.exists_eq
  obtain ⟨tail, hstars, -⟩ := opens_iff.1 hopens
  obtain ⟨rfl, htail⟩ := List.cons.inj hstars
  -- The second star of the span would make a marker with the first one.
  refine (upToMarker_cons_iff.1 h).1 rfl ?_
  have hhead := congrArg List.head? htail
  rwa [← List.append_assoc, List.head?_append_of_ne_nil _ (by simp [marker])] at hhead

/-- If no span starts at a character, the marker of the next span on the line is still the first
one behind it. -/
theorem upToMarker_cons {c : Char} {chars s : List Char} (hbreak : '\n' ∉ chars ++ s)
    (hchars : UpToMarker chars) (hs : Opens s) (h : ¬ Opens (c :: (chars ++ s))) :
    UpToMarker (c :: chars) := by
  refine upToMarker_cons_iff.2 ⟨?_, hchars⟩
  rintro rfl hhead
  apply h
  obtain ⟨inner, after, hspan⟩ := hs
  rw [hspan.split] at hbreak ⊢
  cases chars with
  | nil =>
    -- The star makes a marker with the first one of the next span, which becomes plain text.
    have hinner : '\n' ∉ '*' :: inner := by simpa using hspan.noBreak
    simpa [marker] using opens_append after hinner
  | cons d chars =>
    -- The two stars are a marker, and the next span closes it where it starts.
    obtain rfl : d = '*' := by simpa using hhead
    have hinner : '\n' ∉ chars := fun hmem => hbreak (List.mem_append_left _ (.tail _ hmem))
    simpa [marker] using opens_append (inner ++ marker ++ after) hinner

/-- A line has no span, or it has a first one, with the first marker at its start. -/
theorem spanless_or_exists_opens {s : List Char} (hbreak : '\n' ∉ s) :
    Spanless s ∨ ∃ chars rest, s = chars ++ rest ∧ UpToMarker chars ∧ Opens rest := by
  induction s with
  | nil => exact .inl spanless_nil
  | cons c s ih =>
    rw [List.mem_cons, not_or] at hbreak
    by_cases hopens : Opens (c :: s)
    · exact .inr ⟨[], c :: s, rfl, upToMarker_nil, hopens⟩
    · rcases ih hbreak.2 with hs | ⟨chars, rest, rfl, hchars, hrest⟩
      · exact .inl (spanless_cons_iff.2 ⟨hopens, hs⟩)
      · exact .inr ⟨c :: chars, rest, rfl, upToMarker_cons hbreak.2 hchars hrest hopens, hrest⟩

/-! ## The pieces of a parting -/

/-- Only the empty text parts into no spans. -/
theorem isParting_nil_iff {s : List Char} : IsParting [] s ↔ s = [] := by
  simp only [isParting_iff, List.flatMap_nil]
  grind

/-- A bold piece at the start asks nothing of the pieces behind it. -/
theorem isParting_bold_cons_iff {inner s : List Char} {later : List Span} :
    IsParting (⟨inner, true⟩ :: later) s ↔
      UpToMarker inner ∧
        ∃ after, s = marker ++ inner ++ marker ++ after ∧ IsParting later after := by
  have hmarked : Span.marked ⟨inner, true⟩ = marker ++ inner ++ marker := rfl
  cases later with
  | nil =>
    simp only [isParting_iff, List.flatMap_cons, List.forall_mem_cons, List.isChain_singleton,
      hmarked, List.getLast?_singleton]
    grind
  | cons next later =>
    simp only [isParting_iff, List.flatMap_cons, List.forall_mem_cons, List.isChain_cons_cons,
      hmarked, List.getLast?_cons_cons]
    grind

/-- Behind a plain piece at the start stands a bold one. -/
theorem isParting_plain_cons_iff {chars s : List Char} {next : Span} {later : List Span} :
    IsParting (⟨chars, false⟩ :: next :: later) s ↔
      chars ≠ [] ∧ next.bold = true ∧ UpToMarker chars ∧
        ∃ after, s = chars ++ after ∧ IsParting (next :: later) after := by
  have hmarked : Span.marked ⟨chars, false⟩ = chars := rfl
  simp only [isParting_iff, List.flatMap_cons, List.forall_mem_cons, List.isChain_cons_cons,
    hmarked, List.getLast?_cons_cons]
  grind

/-- A plain piece alone is a line without spans. -/
theorem isParting_plain_iff {chars s : List Char} (hbreak : '\n' ∉ s) :
    IsParting [⟨chars, false⟩] s ↔ chars = s ∧ s ≠ [] ∧ Spanless s := by
  constructor
  · intro h
    obtain rfl : chars = s := by simpa [Span.marked] using h.marked
    refine ⟨rfl, h.nonempty _ List.mem_cons_self rfl, ?_⟩
    rw [spanless_iff]
    exact fun before inner after hs => absurd hs (h.tail _ rfl rfl before inner after)
  · rintro ⟨rfl, hne, hs⟩
    exact
      { marked := by simp [Span.marked]
        nonempty := by simpa using hne
        apart := .singleton _
        closed := by simp
        opened := .singleton _
        tail := by
          rintro piece ⟨⟩ - before inner after rfl
          -- A line has no line break between the two markers.
          have hinner := spanless_iff.1 hs before inner after rfl
          simp [hinner] at hbreak }

/-! ## Existence and uniqueness -/

/-- Up to the first marker all is one plain piece. -/
theorem spans_of_upToMarker {chars s : List Char} (hne : chars ≠ []) (h : UpToMarker chars)
    (hs : Opens s) : spans (chars ++ s) = ⟨chars, false⟩ :: spans s := by
  induction chars with
  | nil => exact absurd rfl hne
  | cons c chars ih =>
    rw [List.cons_append, spans_cons (not_opens_of_upToMarker h hs)]
    cases chars with
    | nil =>
      -- A bold span comes next, so the character is a piece of its own.
      obtain ⟨inner, after, hspan⟩ := hs
      rw [List.nil_append, spans_of_isSpan hspan]
      rfl
    | cons d chars =>
      rw [ih (List.cons_ne_nil d chars) (upToMarker_cons_iff.1 h).2]
      rfl

/-- The spans of a line part it. -/
theorem isParting_spans {s : List Char} (hbreak : '\n' ∉ s) : IsParting (spans s) s := by
  rcases spanless_or_exists_opens hbreak with hs | ⟨chars, rest, hs, hchars, inner, after, hspan⟩
  · by_cases hne : s = []
    · rw [hne, spans_nil, isParting_nil_iff]
    · rw [spans_of_spanless hs hne, isParting_plain_iff hbreak]
      exact ⟨rfl, hne, hs⟩
  · have hlength := hspan.length_lt
    have hafter : '\n' ∉ after := by
      rw [hs, hspan.split] at hbreak
      exact fun hmem => hbreak (List.mem_append_right _ (List.mem_append_right _ hmem))
    -- Behind the first span, the line is parted by its own spans.
    have hrest : IsParting (⟨inner, true⟩ :: spans after) rest :=
      isParting_bold_cons_iff.2 ⟨hspan.upToMarker, after, hspan.split, isParting_spans hafter⟩
    by_cases hne : chars = []
    · rwa [hs, hne, List.nil_append, spans_of_isSpan hspan]
    · rw [hs, spans_of_upToMarker hne hchars ⟨inner, after, hspan⟩, spans_of_isSpan hspan]
      exact isParting_plain_cons_iff.2 ⟨hne, rfl, hchars, rest, rfl, hrest⟩
termination_by s.length
decreasing_by
  rw [hs, List.length_append]
  omega

/-- A bold piece at the start of a parted line is a span. -/
theorem IsParting.exists_isSpan {inner s : List Char} {later : List Span}
    (h : IsParting (⟨inner, true⟩ :: later) s) (hbreak : '\n' ∉ s) :
    ∃ after, IsSpan s inner after ∧ '\n' ∉ after ∧ IsParting later after := by
  obtain ⟨hinner, after, rfl, hlater⟩ := isParting_bold_cons_iff.1 h
  simp only [List.mem_append, not_or] at hbreak
  exact ⟨after, isSpan_of_upToMarker hbreak.1.1.2 hinner after, hbreak.2, hlater⟩

/-- A line is parted in no other way than by its spans. -/
theorem IsParting.eq_spans {pieces : List Span} {s : List Char} (h : IsParting pieces s)
    (hbreak : '\n' ∉ s) : pieces = spans s := by
  induction pieces generalizing s with
  | nil => rw [isParting_nil_iff.1 h, spans_nil]
  | cons piece later ih =>
    match piece, later with
    | ⟨inner, true⟩, later =>
      obtain ⟨after, hspan, hafter, hlater⟩ := h.exists_isSpan hbreak
      rw [spans_of_isSpan hspan, ih hlater hafter]
    | ⟨chars, false⟩, [] =>
      obtain ⟨rfl, hne, hs⟩ := (isParting_plain_iff hbreak).1 h
      rw [spans_of_spanless hs hne]
    | ⟨chars, false⟩, next :: later =>
      -- The next piece is bold, so a span starts where the plain piece ends.
      obtain ⟨hne, hnext, hchars, rest, rfl, hrest⟩ := isParting_plain_cons_iff.1 h
      have hrest' : '\n' ∉ rest := fun hmem => hbreak (List.mem_append_right _ hmem)
      obtain ⟨inner, bold⟩ := next
      obtain rfl : bold = true := hnext
      obtain ⟨after, hspan, -, -⟩ := hrest.exists_isSpan hrest'
      rw [spans_of_upToMarker hne hchars ⟨inner, after, hspan⟩, ih hrest hrest']

/-- On one line there is exactly one parting. -/
theorem isParting_iff_eq_spans {pieces : List Span} {s : List Char} (hbreak : '\n' ∉ s) :
    IsParting pieces s ↔ pieces = spans s :=
  ⟨fun h => h.eq_spans hbreak, fun h => h ▸ isParting_spans hbreak⟩

/-! ## The segments of a line -/

/-- The segment that a span is on a line. -/
def Line.segment (line : Line) (span : Span) : Segment where
  text := String.ofList span.chars
  bold := span.bold
  bullet := line.bullet?.isSome
  level := (line.bullet?.getD 0 : Nat)

/-- The segments of a line are the spans of its content. -/
theorem segments_eq_map (line : Line) : line.segments = (spans line.content).map line.segment :=
  rfl

theorem span_segment (line : Line) (span : Span) : (line.segment span).span = span := by
  rw [Segment.span, Line.segment, String.toList_ofList]

/-- A segment that says of its line what is true of it can be told from its span. -/
theorem segment_span {line : Line} {segment : Segment}
    (hbullet : segment.bullet = line.bullet?.isSome)
    (hlevel : segment.level = (line.bullet?.getD 0 : Nat)) :
    line.segment segment.span = segment := by
  rw [Line.segment, ← hbullet, ← hlevel, Segment.span, String.ofList_toList]

/-- The segments of a line are the only ones that are marked as the bullet that the line is and
part what stands behind its bullet marker. -/
theorem eq_segments_iff_isParting {line : Line} (hbreak : '\n' ∉ line.content)
    (segments : List Segment) :
    segments = line.segments ↔
      (∀ segment ∈ segments, segment.bullet = line.bullet?.isSome ∧
        segment.level = (line.bullet?.getD 0 : Nat)) ∧
      IsParting (segments.map Segment.span) line.content := by
  rw [isParting_iff_eq_spans hbreak, segments_eq_map]
  constructor
  · rintro rfl
    refine ⟨fun segment hsegment => bullet_and_level_of_mem hsegment, ?_⟩
    have hsame : Segment.span ∘ line.segment = id := funext (span_segment line)
    rw [List.map_map, hsame, List.map_id]
  · rintro ⟨hline, hspans⟩
    rw [← hspans, List.map_map]
    have hsame : ∀ segment ∈ segments, (line.segment ∘ Segment.span) segment = segment :=
      fun segment hsegment => segment_span (hline segment hsegment).1 (hline segment hsegment).2
    rw [List.map_congr_left hsame, List.map_id']

/-- Stars left over from three or five in a row go to the piece behind them, and an empty bold piece
is a piece. -/
theorem isParting_segments_of_oddStars :
    '\n' ∉ (Line.of "  ◦ a***b**c*****d**".toList).content ∧
      [⟨"a", false, true, 1⟩, ⟨"*b", true, true, 1⟩, ⟨"c", false, true, 1⟩, ⟨"", true, true, 1⟩,
        ⟨"*d**", false, true, 1⟩] = (Line.of "  ◦ a***b**c*****d**".toList).segments ∧
      IsParting [⟨"a".toList, false⟩, ⟨"*b".toList, true⟩, ⟨"c".toList, false⟩, ⟨[], true⟩,
        ⟨"*d**".toList, false⟩] "a***b**c*****d**".toList := by
  have hbreak : '\n' ∉ (Line.of "  ◦ a***b**c*****d**".toList).content := by decide
  have hsegments : [⟨"a", false, true, 1⟩, ⟨"*b", true, true, 1⟩, ⟨"c", false, true, 1⟩,
      ⟨"", true, true, 1⟩, ⟨"*d**", false, true, 1⟩] =
      (Line.of "  ◦ a***b**c*****d**".toList).segments := by
    decide +kernel
  exact ⟨hbreak, hsegments, ((eq_segments_iff_isParting hbreak _).1 hsegments).2⟩

end DeckPlan.Markup
