import DeckPlan.Proofs.Markup.PlainText
import DeckPlan.Proofs.Text.Shrinking
import Mathlib.Data.List.Forall2

/-!
# Text without markup, read as markup again

Taking the markup out of a text does not always leave a text without markup, but of the two kinds
only bullet markers can be left:

* no bold span is left, neither by the edits (`spanless_text_compile_parse`) nor by `plainText`
  (`spanless_plainLine`), however the stars of the text stood;
* a second `plainText` takes exactly one more bullet marker off each line that still starts with
  one (`plainText_of_spanless`), as `DropsMark` says without `Line.of`.

What is left is a part of the text (`plainText_sublist`), so in the end nothing is taken out any
more.
-/

namespace DeckPlan.Markup

/-- The line `out` is the line without the bullet marker that it starts with, if it starts with
one. -/
inductive DropsMark : List Char → List Char → Prop
  | bullet (content : List Char) : DropsMark (bulletMark ++ content) content
  | subBullet (content : List Char) : DropsMark (subBulletMark ++ content) content
  | plain {line : List Char} : ¬ IsBullet line → DropsMark line line

/-- Exactly one line is left, and `Line.of` finds it. -/
theorem dropsMark_iff {line out : List Char} :
    DropsMark line out ↔ (Line.of line).content = out := by
  constructor
  · intro h
    cases h with
    | bullet content => rw [of_bulletMark]
    | subBullet content => rw [of_subBulletMark]
    | plain h => rw [of_plain h]
  · rintro rfl
    induction line using line_cases with
    | bullet content => exact .bullet content
    | subBullet content => exact .subBullet content
    | plain line h => simpa only [of_plain h] using DropsMark.plain h

/-! ## Texts without spans -/

/-- A text has no span exactly if none of its lines has one. -/
theorem spanless_joinLines_iff (texts : List (List Char)) :
    Spanless (joinLines texts).toList ↔ ∀ text ∈ texts, Spanless text := by
  rw [joinLines, String.toList_ofList]
  induction texts with
  | nil => simpa using spanless_nil
  | cons text texts ih =>
    cases texts with
    | nil => simp
    | cons next texts =>
      -- The first line ends at the line break, and spans do not reach over it.
      rw [List.intercalate_cons_cons, List.append_assoc, List.singleton_append,
        spanless_append_break_iff, ih, List.forall_mem_cons (a := text)]

/-- A change that leaves no span in any line leaves none in the text. -/
theorem spanless_joinLines_map {f : List Char → List Char} (h : ∀ line, Spanless (f line))
    (raw : String) : Spanless (joinLines ((lines raw).map f)).toList := by
  rw [spanless_joinLines_iff]
  intro text htext
  obtain ⟨line, -, rfl⟩ := List.mem_map.1 htext
  exact h line

/-- A line without a span has no bold segment, whatever stands behind its bullet marker. -/
theorem bold_eq_false_of_spanless {line : List Char} (h : Spanless line) {segment : Segment}
    (hsegment : segment ∈ (Line.of line).segments) : segment.bold = false := by
  obtain ⟨span, hspan, rfl⟩ := List.mem_map.1 hsegment
  by_cases hne : (Line.of line).content = []
  · rw [hne, spans_nil] at hspan
    cases hspan
  · rw [spans_of_spanless (h.of_suffix (content_suffix line)) hne, List.mem_singleton] at hspan
    rw [hspan]

/-- What stands in lists that are joined stands in one of them or is the separator. -/
theorem mem_intercalate {α : Type} {a separator : α} {parts : List (List α)}
    (h : a ∈ [separator].intercalate parts) : a = separator ∨ ∃ part ∈ parts, a ∈ part := by
  match parts with
  | [] => cases h
  | [part] => exact .inr ⟨part, List.mem_singleton_self part, by simpa using h⟩
  | part :: next :: parts =>
    rw [List.intercalate_cons_cons, List.append_assoc, List.singleton_append] at h
    rcases List.mem_append.1 h with hpart | hrest
    · exact .inr ⟨part, List.mem_cons_self, hpart⟩
    · rcases List.mem_cons.1 hrest with rfl | hlater
      · exact .inl rfl
      · rcases mem_intercalate hlater with rfl | ⟨other, hother, ha⟩
        · exact .inl rfl
        · exact .inr ⟨other, List.mem_cons_of_mem part hother, ha⟩

/-- The parse of a text without spans has no bold segment. -/
theorem bold_eq_false_of_mem_parse {raw : String} (h : Spanless raw.toList) {segment : Segment}
    (hsegment : segment ∈ parse raw) : segment.bold = false := by
  rw [← joinLines_lines raw, spanless_joinLines_iff] at h
  rcases mem_intercalate hsegment with rfl | ⟨segments, hsegments, hmem⟩
  · rfl
  · obtain ⟨line, hline, rfl⟩ := List.mem_map.1 hsegments
    exact bold_eq_false_of_spanless (h line hline) hmem

/-! ## What the edits insert -/

/-- What is shown of a line has no spans. -/
theorem spanless_shown (line : List Char) : Spanless (shown line) :=
  spanless_unmarked (Line.of line).content

/-- Where the pieces of a text meet without their markers, no new span comes up. -/
theorem spanless_text_compile_parse (raw : String) :
    Spanless (compile (parse raw)).text.toList := by
  rw [text_compile_parse]
  exact spanless_joinLines_map spanless_shown raw

/-- The requests for a marked-up text insert one text. No part of it is made of two markers with no
line break between them, and read as markup it has no bold segment. -/
theorem insertedText_without_spans (raw target : String) :
    ∃ text, ((editsOf raw target).map Edit.request).filterMap insertedText? = [text] ∧
      (∀ before inner after, text.toList = before ++ marker ++ inner ++ marker ++ after →
        '\n' ∈ inner) ∧
      ∀ segment ∈ parse text, segment.bold = false := by
  have hspanless := spanless_text_compile_parse raw
  refine ⟨_, filterMap_insertedText? raw target, spanless_iff.1 hspanless, ?_⟩
  exact fun segment hsegment => bold_eq_false_of_mem_parse hspanless hsegment

/-! ## A second `plainText` -/

/-- The plain text has the plain lines of the text. -/
theorem lines_plainText (raw : String) : lines (plainText raw) = (lines raw).map plainLine := by
  rw [plainText_eq, lines_joinLines_map plainLine_sublist]

/-- What `plainText` leaves of a line is the end of a text without spans. -/
theorem spanless_plainLine (line : List Char) : Spanless (plainLine line) :=
  (spanless_unmarked line).of_suffix (content_suffix (unmarked line))

/-- The plain text has no spans. -/
theorem spanless_plainText (raw : String) : Spanless (plainText raw).toList := by
  rw [plainText_eq]
  exact spanless_joinLines_map spanless_plainLine raw

/-- Of a text without spans, `plainText` only takes the bullet markers off the lines. -/
theorem plainText_of_spanless {text : String} (h : Spanless text.toList) :
    plainText text = joinLines ((lines text).map fun line => (Line.of line).content) := by
  rw [plainText, unmarked_of_spanless h]
  rfl

/-- Nothing is taken out of a text without spans exactly if none of its lines is a bullet. -/
theorem plainText_eq_self_iff {text : String} (h : Spanless text.toList) :
    plainText text = text ↔ ∀ line ∈ lines text, ¬ IsBullet line := by
  have hself : joinLines ((lines text).map id) = text := by
    rw [List.map_id, joinLines_lines]
  conv => lhs; rhs; rw [← hself]
  rw [plainText_of_spanless h,
    joinLines_map_inj (g := id) content_sublist fun line => List.Sublist.refl line]
  simp only [id_eq, content_of_eq_self_iff]

/-- Of each line of a text without spans, `plainText` takes one bullet marker off. -/
theorem forall₂_dropsMark {text : String} (h : Spanless text.toList) :
    List.Forall₂ DropsMark (lines text) (lines (plainText text)) := by
  rw [plainText_of_spanless h, lines_joinLines_map content_sublist, List.forall₂_map_right_iff,
    List.forall₂_same]
  exact fun line _ => dropsMark_iff.2 rfl

/-! ## Repeating `plainText` -/

/-- Parts that lose characters are put together to a text that loses them. -/
theorem intercalate_map_sublist {α : Type} {f : List α → List α}
    (h : ∀ part, (f part).Sublist part) (separator : List α) (parts : List (List α)) :
    (separator.intercalate (parts.map f)).Sublist (separator.intercalate parts) := by
  match parts with
  | [] => exact .slnil
  | [part] => simpa using h part
  | part :: next :: parts =>
    rw [List.map_cons, List.map_cons, List.intercalate_cons_cons, List.intercalate_cons_cons]
    exact ((h part).append (.refl separator)).append
      (intercalate_map_sublist h separator (next :: parts))

/-- What `plainText` leaves is a part of the text. -/
theorem plainText_sublist (raw : String) : (plainText raw).toList.Sublist raw.toList := by
  conv => rhs; rw [← joinLines_lines raw]
  rw [plainText_eq, joinLines, joinLines, String.toList_ofList, String.toList_ofList]
  exact intercalate_map_sublist plainLine_sublist ['\n'] (lines raw)

/-- `plainText` keeps the number of lines. A second time it changes nothing exactly if no line of
the first result is a bullet, and otherwise takes the bullet markers off these lines and nothing
else. Repeated often enough, it comes to a text that it does not change. -/
theorem plainText_repeated (raw : String) :
    (lines (plainText raw)).length = (lines raw).length ∧
      (plainText (plainText raw) = plainText raw ↔
        ∀ line ∈ lines (plainText raw), ¬ IsBullet line) ∧
      List.Forall₂ DropsMark (lines (plainText raw)) (lines (plainText (plainText raw))) ∧
      ∃ n ≤ raw.length, plainText (plainText^[n] raw) = plainText^[n] raw := by
  refine ⟨?_, plainText_eq_self_iff (spanless_plainText raw),
    forall₂_dropsMark (spanless_plainText raw), Text.exists_iterate_eq_self plainText_sublist raw⟩
  rw [lines_plainText, List.length_map]

/-- Of bullet markers one behind the other, one is taken off each time. -/
example : plainText "• • • a" = "• • a" := by
  decide +kernel

end DeckPlan.Markup
