import DeckPlan.Proofs.Markup.Line

/-!
# Writing segments back as marked-up text

`render` writes segments as the markup they could have come from. Written after reading, it gives
the text back, except that a line which is a bullet marker and nothing else leaves no segment and
comes out empty (`withoutBareMarks`):

* `render_parse`: `render` undoes `parse` up to bare markers;
* `parse_withoutBareMarks`: bare markers are the only thing that `parse` does not see.

Together they say when two texts have the same parse.
-/

namespace DeckPlan.Markup

/-- A segment with the markers of bold text. -/
def Segment.written (segment : Segment) : List Char :=
  if segment.bold then marker ++ segment.text.toList ++ marker else segment.text.toList

/-- The bullet marker of a line, which its first segment tells. -/
def markOf : List Segment → List Char
  | [] => []
  | segment :: _ =>
    if segment.bullet ∧ segment.level = 0 then bulletMark
    else if segment.bullet ∧ segment.level = 1 then subBulletMark
    else []

/-- The segments of one line as markup. -/
def renderLine (segments : List Segment) : List Char :=
  markOf segments ++ segments.flatMap Segment.written

/-- Segments as markup: between two lines stands the segment that holds the line break alone. -/
def render (segments : List Segment) : String :=
  joinLines ((segments.splitOn lineBreak).map renderLine)

/-- A line, or an empty line in place of a bullet marker with nothing behind it. -/
def withoutBareMark (line : List Char) : List Char :=
  if line = bulletMark ∨ line = subBulletMark then [] else line

/-- The text with an empty line for every line that is a bullet marker and nothing else. -/
def withoutBareMarks (raw : String) : String :=
  joinLines ((lines raw).map withoutBareMark)

/-! ## One line -/

/-- Only an empty line and a bare bullet marker have nothing behind their marker. -/
theorem content_of_eq_nil_iff {line : List Char} :
    (Line.of line).content = [] ↔ line = [] ∨ line = bulletMark ∨ line = subBulletMark := by
  constructor
  · intro h
    -- Without content, the line is its marker.
    have hline := mark_append_content line
    rw [h, List.append_nil, Line.mark] at hline
    split at hline
    · exact .inr (.inl hline.symm)
    · exact .inr (.inr hline.symm)
    · exact .inl hline.symm
  · rintro (rfl | rfl | rfl)
    · rw [of_plain (by decide)]
    · rfl
    · rfl

/-- A line that is nothing but a mark becomes empty, and any other one stays. -/
theorem withoutBareMark_eq (line : List Char) :
    withoutBareMark line = if (Line.of line).content = [] then [] else line := by
  simp only [withoutBareMark, content_of_eq_nil_iff]
  by_cases h : line = [] <;> simp [h]

/-- The segments of a line hold all that stands behind its bullet marker. -/
theorem flatMap_written_segments (line : Line) :
    line.segments.flatMap Segment.written = line.content := by
  have hwritten : (fun span : Span => Segment.written
      { text := String.ofList span.chars
        bold := span.bold
        bullet := line.bullet?.isSome
        level := (line.bullet?.getD 0 : Nat) }) = Span.marked := by
    funext span
    rw [Segment.written, String.toList_ofList, Span.marked]
  rw [Line.segments, List.flatMap_map, hwritten, flatMap_marked_spans]

/-- The first segment tells the bullet marker that was taken off the line. -/
theorem markOf_segments {line : Line} (h : line.content ≠ []) :
    markOf line.segments = line.mark := by
  obtain ⟨content, bullet?⟩ := line
  obtain ⟨span, later, hspans⟩ := List.exists_cons_of_ne_nil (mt spans_eq_nil_iff.1 h)
  rw [Line.segments, hspans, List.map_cons, markOf]
  rcases bullet? with _ | _ | _ | level
  · rfl
  · rfl
  · rfl
  · -- No deeper level has a marker.
    have h0 : ((level + 2 : Nat) : Int) ≠ 0 := by omega
    have h1 : ((level + 2 : Nat) : Int) ≠ 1 := by omega
    simp only [Option.getD_some, h0, h1, and_false, if_false]
    rfl

/-- The segments of a line are written as the line they come from, bare markers apart. -/
theorem renderLine_segments (line : List Char) :
    renderLine (Line.of line).segments = withoutBareMark line := by
  rw [withoutBareMark_eq]
  split
  · next h =>
    rw [segments_eq_nil_iff.2 h]
    rfl
  · next h =>
    rw [renderLine, markOf_segments h, flatMap_written_segments, mark_append_content]

theorem withoutBareMark_sublist (line : List Char) : (withoutBareMark line).Sublist line := by
  rw [withoutBareMark]
  split
  · exact List.nil_sublist _
  · exact List.Sublist.refl _

/-- A bare marker leaves no segments, like an empty line. -/
theorem segments_withoutBareMark (line : List Char) :
    (Line.of (withoutBareMark line)).segments = (Line.of line).segments := by
  rw [withoutBareMark_eq]
  split
  · next h =>
    rw [segments_eq_nil_iff.2 h, segments_eq_nil_iff]
    rfl
  · rfl

/-- No segment of a line looks like the one between two lines. -/
theorem lineBreak_not_mem_segments {line : List Char} (h : '\n' ∉ line) :
    lineBreak ∉ (Line.of line).segments := by
  intro hmem
  -- The text of such a segment would show a line break.
  have hshown : '\n' ∈ shown line := by
    rw [shown, ← flatMap_text_segments]
    exact List.mem_flatMap.2 ⟨lineBreak, hmem, by decide⟩
  exact h ((shown_sublist line).subset hshown)

/-! ## All lines -/

/-- The lines of a text can be told from its segments. -/
theorem splitOn_parse (raw : String) :
    (parse raw).splitOn lineBreak = (lines raw).map fun line => (Line.of line).segments := by
  refine List.splitOn_intercalate lineBreak ?_ (by simp [lines_ne_nil])
  intro segments hsegments
  obtain ⟨line, hline, rfl⟩ := List.mem_map.1 hsegments
  exact lineBreak_not_mem_segments (noBreak_of_mem_lines hline)

/-- Rendering what was parsed gives the text without its bare marks. -/
theorem render_parse (raw : String) : render (parse raw) = withoutBareMarks raw := by
  rw [render, splitOn_parse, List.map_map, withoutBareMarks]
  simp only [Function.comp_def, renderLine_segments]

/-- Bare marks do not show in what is parsed. -/
theorem parse_withoutBareMarks (raw : String) : parse (withoutBareMarks raw) = parse raw := by
  rw [parse, withoutBareMarks, lines_joinLines_map withoutBareMark_sublist, List.map_map]
  simp only [Function.comp_def, segments_withoutBareMark]
  rfl

/-- Reading loses nothing but bare bullet markers: writing the segments back gives the text
without them, this text has the same segments, and two texts have the same segments exactly if
they differ in bare markers only. -/
theorem parse_roundTrip (raw other : String) :
    render (parse raw) = withoutBareMarks raw ∧
      parse (render (parse raw)) = parse raw ∧
      (parse raw = parse other ↔ withoutBareMarks raw = withoutBareMarks other) := by
  refine ⟨render_parse raw, ?_, ?_, ?_⟩
  · rw [render_parse, parse_withoutBareMarks]
  · intro h
    rw [← render_parse, ← render_parse, h]
  · intro h
    rw [← parse_withoutBareMarks raw, ← parse_withoutBareMarks other, h]

end DeckPlan.Markup
