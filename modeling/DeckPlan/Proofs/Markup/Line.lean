import DeckPlan.Markup.FormattedText
import DeckPlan.Proofs.Markup.Span
import DeckPlan.Proofs.Text.Occurrence

/-!
# Lines of a marked-up text

A text is its lines with a line break between any two of them: `joinLines` puts together what
`lines` takes apart (`lines_joinLines`, `joinLines_lines`). A line is a bullet, a bullet one level
deeper, or neither (`line_cases`), and `Line.of` tells which (`of_bulletMark`, `of_subBulletMark`,
`of_plain`).

`Shows line out` says without `Line.of` and `unmarked` what is shown of a line: the bullet marker
is left out and the bold spans are replaced by their text. `shown` computes it (`shows_iff`), and
the text of a compiled parse is made of the shown lines (`text_compile_parse`).
-/

namespace DeckPlan.Markup

/-- What stands at the start of a bullet. -/
def bulletMark : List Char := ['•', ' ']

/-- What stands at the start of a bullet one level deeper. -/
def subBulletMark : List Char := [' ', ' ', '◦', ' ']

/-- The line starts with the marker of a bullet. -/
def IsBullet (line : List Char) : Prop :=
  bulletMark <+: line ∨ subBulletMark <+: line

instance (line : List Char) : Decidable (IsBullet line) :=
  inferInstanceAs (Decidable (bulletMark <+: line ∨ subBulletMark <+: line))

/-- What is shown of a line: the text behind its bullet marker, or all of a line without one, with
its bold spans replaced by their text. -/
inductive Shows : List Char → List Char → Prop
  | bullet {content out : List Char} : Unmarks content out → Shows (bulletMark ++ content) out
  | subBullet {content out : List Char} :
      Unmarks content out → Shows (subBulletMark ++ content) out
  | plain {line out : List Char} : ¬ IsBullet line → Unmarks line out → Shows line out

/-- The shown text of a line. -/
def shown (line : List Char) : List Char :=
  unmarked (Line.of line).content

/-- The bullet marker that was taken off a line. -/
def Line.mark (line : Line) : List Char :=
  match line.bullet? with
  | some 0 => bulletMark
  | some 1 => subBulletMark
  | _ => []

/-- The text with the given lines. -/
def joinLines (texts : List (List Char)) : String :=
  String.ofList (['\n'].intercalate texts)

/-! ## Markers of bullets -/

theorem of_bulletMark (content : List Char) :
    Line.of (bulletMark ++ content) = ⟨content, some 0⟩ := rfl

theorem of_subBulletMark (content : List Char) :
    Line.of (subBulletMark ++ content) = ⟨content, some 1⟩ := rfl

theorem of_plain {line : List Char} (h : ¬ IsBullet line) : Line.of line = ⟨line, none⟩ := by
  rw [Line.of]
  · rintro content rfl
    exact h (.inr ⟨content, rfl⟩)
  · rintro content rfl
    exact h (.inl ⟨content, rfl⟩)

theorem isBullet_bulletMark (content : List Char) : IsBullet (bulletMark ++ content) :=
  .inl (List.prefix_append _ _)

theorem isBullet_subBulletMark (content : List Char) : IsBullet (subBulletMark ++ content) :=
  .inr (List.prefix_append _ _)

/-- A line is a bullet, a bullet one level deeper, or neither. -/
@[elab_as_elim]
theorem line_cases {motive : List Char → Prop}
    (bullet : ∀ content, motive (bulletMark ++ content))
    (subBullet : ∀ content, motive (subBulletMark ++ content))
    (plain : ∀ line, ¬ IsBullet line → motive line) (line : List Char) : motive line := by
  by_cases h : IsBullet line
  · rcases h with ⟨content, rfl⟩ | ⟨content, rfl⟩
    · exact bullet content
    · exact subBullet content
  · exact plain line h

/-- A line is its bullet marker and what stands behind it. -/
theorem mark_append_content (line : List Char) :
    (Line.of line).mark ++ (Line.of line).content = line := by
  induction line using line_cases with
  | bullet content => rfl
  | subBullet content => rfl
  | plain line h => rw [of_plain h]; rfl

/-- The content of a line is what is left of it behind its mark. -/
theorem content_suffix (line : List Char) : (Line.of line).content <:+ line :=
  ⟨(Line.of line).mark, mark_append_content line⟩

theorem content_sublist (line : List Char) : (Line.of line).content.Sublist line :=
  (content_suffix line).sublist

/-- Nothing is taken off exactly those lines that are no bullets. -/
theorem content_of_eq_self_iff {line : List Char} :
    (Line.of line).content = line ↔ ¬ IsBullet line := by
  constructor
  · rintro h (⟨content, rfl⟩ | ⟨content, rfl⟩)
    · -- The content is shorter than the line it was taken from.
      rw [of_bulletMark] at h
      have hlength := congrArg List.length h
      simp only [bulletMark, List.length_append, List.length_cons, List.length_nil] at hlength
      omega
    · rw [of_subBulletMark] at h
      have hlength := congrArg List.length h
      simp only [subBulletMark, List.length_append, List.length_cons, List.length_nil] at hlength
      omega
  · intro h
    rw [of_plain h]

theorem shown_bulletMark (content : List Char) : shown (bulletMark ++ content) = unmarked content :=
  rfl

theorem shown_subBulletMark (content : List Char) :
    shown (subBulletMark ++ content) = unmarked content :=
  rfl

/-- Of a line without a mark all is shown but its stars. -/
theorem shown_plain {line : List Char} (h : ¬ IsBullet line) : shown line = unmarked line := by
  rw [shown, of_plain h]

/-- Exactly one text is shown of a line, and `shown` is that text. -/
theorem shows_iff {line out : List Char} : Shows line out ↔ shown line = out := by
  constructor
  · intro h
    cases h with
    | bullet h => rw [shown_bulletMark, unmarks_iff.1 h]
    | subBullet h => rw [shown_subBulletMark, unmarks_iff.1 h]
    | plain hplain h => rw [shown_plain hplain, unmarks_iff.1 h]
  · rintro rfl
    induction line using line_cases with
    | bullet content => exact .bullet (unmarks_iff.2 rfl)
    | subBullet content => exact .subBullet (unmarks_iff.2 rfl)
    | plain line h => exact .plain h (unmarks_iff.2 (shown_plain h).symm)

/-- The shown text of a line is a part of the line. -/
theorem shown_sublist (line : List Char) : (shown line).Sublist line :=
  (unmarked_sublist _).trans (content_sublist line)

/-! ## Taking a text apart -/

/-- Even the empty text has a line. -/
theorem lines_ne_nil (raw : String) : lines raw ≠ [] :=
  List.splitOn_ne_nil _ _

/-- A part of a text does not hold what parts it. -/
theorem not_mem_of_mem_splitOn {s line : List Char} {c : Char} (h : line ∈ s.splitOn c) :
    c ∉ line := by
  rw [List.splitOn_eq_splitOnP] at h
  intro hmem
  simpa using Text.not_of_mem_splitOnP h _ hmem

/-- No line holds a line break. -/
theorem noBreak_of_mem_lines {raw : String} {line : List Char} (h : line ∈ lines raw) :
    '\n' ∉ line :=
  not_mem_of_mem_splitOn h

/-- The lines of a text put together again are the text. -/
theorem joinLines_lines (raw : String) : joinLines (lines raw) = raw := by
  rw [joinLines, lines, List.intercalate_splitOn, String.ofList_toList]

/-- Texts without line breaks are the lines of what they are put together to. -/
theorem lines_joinLines {texts : List (List Char)} (hne : texts ≠ [])
    (h : ∀ text ∈ texts, '\n' ∉ text) : lines (joinLines texts) = texts := by
  rw [lines, joinLines, String.toList_ofList, List.splitOn_intercalate _ h hne]

/-- Changing each line of a text without making a line break changes the lines of the text. -/
theorem lines_joinLines_map {f : List Char → List Char} (h : ∀ line, (f line).Sublist line)
    (raw : String) : lines (joinLines ((lines raw).map f)) = (lines raw).map f := by
  refine lines_joinLines (by simp [lines_ne_nil]) fun text htext => ?_
  obtain ⟨line, hline, rfl⟩ := List.mem_map.1 htext
  exact fun hbreak => noBreak_of_mem_lines hline ((h line).subset hbreak)

/-- Two changes of the lines of a text agree exactly if they agree on every line. -/
theorem joinLines_map_inj {f g : List Char → List Char} (hf : ∀ line, (f line).Sublist line)
    (hg : ∀ line, (g line).Sublist line) (raw : String) :
    joinLines ((lines raw).map f) = joinLines ((lines raw).map g) ↔
      ∀ line ∈ lines raw, f line = g line := by
  constructor
  · intro h
    -- The lines can be told from the text, since no change makes a line break.
    have hlines := congrArg lines h
    rw [lines_joinLines_map hf, lines_joinLines_map hg] at hlines
    exact List.map_inj_left.1 hlines
  · intro h
    rw [List.map_congr_left h]

/-! ## The segments of a line -/

/-- The segments of a line together show its content without the marks of bold text. -/
theorem flatMap_text_segments (line : Line) :
    (line.segments.flatMap fun segment => segment.text.toList) = unmarked line.content := by
  simp [Line.segments, List.flatMap_map, unmarked]

/-- Every segment of a line tells the bullet that the line is. -/
theorem bullet_and_level_of_mem {line : Line} {segment : Segment} (h : segment ∈ line.segments) :
    segment.bullet = line.bullet?.isSome ∧ segment.level = (line.bullet?.getD 0 : Nat) := by
  obtain ⟨span, -, rfl⟩ := List.mem_map.1 h
  exact ⟨rfl, rfl⟩

/-- A line has no segments exactly if nothing stands behind its bullet marker. -/
theorem segments_eq_nil_iff {line : Line} : line.segments = [] ↔ line.content = [] := by
  rw [Line.segments, List.map_eq_nil_iff, spans_eq_nil_iff]

/-- What becomes of parts that are put together is put together of what becomes of the parts. -/
theorem flatMap_intercalate {α β : Type} (f : α → List β) (separator : List α)
    (parts : List (List α)) :
    (separator.intercalate parts).flatMap f =
      (separator.flatMap f).intercalate (parts.map fun part => part.flatMap f) := by
  match parts with
  | [] => rfl
  | [part] => simp
  | part :: next :: parts =>
    rw [List.intercalate_cons_cons, List.flatMap_append, List.flatMap_append,
      flatMap_intercalate f separator (next :: parts)]
    simp

/-- The text of the segments is made of the shown lines. -/
theorem text_compile_parse (raw : String) :
    (compile (parse raw)).text = joinLines ((lines raw).map shown) := by
  rw [compile, joinText, parse, flatMap_intercalate, List.map_map, joinLines]
  simp only [Function.comp_def, flatMap_text_segments]
  rfl

/-- The lines of the compiled text are what is shown of the lines. -/
theorem lines_text_compile_parse (raw : String) :
    lines (compile (parse raw)).text = (lines raw).map shown := by
  rw [text_compile_parse, lines_joinLines_map shown_sublist]

end DeckPlan.Markup
