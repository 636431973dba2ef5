import DeckPlan.Json.Access
import DeckPlan.Markup.Edit
import DeckPlan.Proofs.Markup.Line

/-!
# Two ways to a text without markup

The text that the edits of a marked-up text insert, and `plainText` of the same text, both leave
out the bullet markers and the markers of bold text. They differ in the order: the edits take the
bullet marker off a line first, `plainText` takes the bold spans out first. Both go line by line
(`text_compile_parse`, `plainText_eq`), so the comparison is one of single lines:

* `shown_eq_plainLine_iff`: they agree on a line unless taking out its bold spans makes a bullet
  of it;
* `plainLine_shown_iff`: `plainText` of what is shown of a line agrees with that of the line
  unless a bullet marker follows its bullet marker.

Two texts agree exactly if all their lines do (`joinLines_map_inj`), so nothing else sets the two
ways apart.
-/

namespace DeckPlan.Markup

/-- What `plainText` leaves of a line. -/
def plainLine (line : List Char) : List Char :=
  (Line.of (unmarked line)).content

/-- The text that a request inserts, if it inserts one. -/
def insertedText? (request : Json) : Option String :=
  match (request.field? "insertText").bind fun insertion => insertion.field? "text" with
  | some (.str text) => some text
  | _ => none

/-! ## Plain text line by line -/

/-- The bold spans of a text are those of its lines. -/
theorem unmarked_intercalate (texts : List (List Char)) :
    unmarked (['\n'].intercalate texts) = ['\n'].intercalate (texts.map unmarked) := by
  match texts with
  | [] => exact unmarked_nil
  | [text] => simp
  | text :: next :: texts =>
    rw [List.intercalate_cons_cons, List.append_assoc, List.singleton_append,
      unmarked_append_break, unmarked_intercalate (next :: texts)]
    simp

/-- The plain text is made line by line. -/
theorem plainText_eq (raw : String) : plainText raw = joinLines ((lines raw).map plainLine) := by
  -- No line break is lost or made when the spans of the whole text are taken out at once.
  have hlines : (unmarked raw.toList).splitOn '\n' = (lines raw).map unmarked := by
    have h := lines_joinLines_map unmarked_sublist raw
    rwa [joinLines, ← unmarked_intercalate, lines, String.toList_ofList, lines,
      List.intercalate_splitOn, ← lines] at h
  rw [plainText, hlines, List.map_map]
  rfl

/-- A plain line is a line without some of its characters. -/
theorem plainLine_sublist (line : List Char) : (plainLine line).Sublist line :=
  (content_sublist _).trans (unmarked_sublist line)

/-! ## One line -/

/-- Of a bullet both ways leave the same. -/
theorem plainLine_of_isBullet {line : List Char} (h : IsBullet line) :
    plainLine line = shown line := by
  -- The markers of bullets hold no star, so it does not matter what is taken off first.
  rcases h with ⟨content, rfl⟩ | ⟨content, rfl⟩
  · rw [plainLine, unmarked_append_of_noStar (by decide), of_bulletMark, shown_bulletMark]
  · rw [plainLine, unmarked_append_of_noStar (by decide), of_subBulletMark, shown_subBulletMark]

/-- The plain text of a line without a mark loses a mark that its shown text starts with. -/
theorem plainLine_of_plain {line : List Char} (h : ¬ IsBullet line) :
    plainLine line = (Line.of (shown line)).content := by
  rw [plainLine, shown_plain h]

/-- What is shown of a line has no spans left, so `plainLine` can only take a bullet marker off. -/
theorem plainLine_shown (line : List Char) :
    plainLine (shown line) = (Line.of (shown line)).content := by
  rw [plainLine, shown, unmarked_unmarked]

/-- Of a line that is no bullet, `plainLine` takes a bullet marker off that the line did not start
with. -/
theorem shown_eq_plainLine_iff (line : List Char) :
    shown line = plainLine line ↔ (¬ IsBullet line → ¬ IsBullet (unmarked line)) := by
  by_cases h : IsBullet line
  · rw [plainLine_of_isBullet h]
    exact iff_of_true rfl fun hplain => absurd h hplain
  · rw [plainLine_of_plain h, eq_comm, content_of_eq_self_iff, shown_plain h]
    exact ⟨fun hline _ => hline, fun hline => hline h⟩

/-- Of what is shown of a bullet, `plainLine` takes a second bullet marker off. -/
theorem plainLine_shown_iff (line : List Char) :
    plainLine (shown line) = plainLine line ↔ (IsBullet line → ¬ IsBullet (shown line)) := by
  rw [plainLine_shown]
  by_cases h : IsBullet line
  · rw [plainLine_of_isBullet h, content_of_eq_self_iff]
    exact ⟨fun hline _ => hline, fun hline => hline h⟩
  · rw [plainLine_of_plain h]
    exact iff_of_true rfl fun hbullet => absurd hbullet h

/-! ## The inserted text -/

theorem insertedText?_request (edit : Edit) :
    insertedText? edit.request =
      match edit with
      | .insertText _ text => some text
      | _ => none := by
  cases edit <;> rfl

/-- Edits that insert no text leave no text. -/
theorem filterMap_insertedText?_eq_nil {α : Type} {f : α → Edit}
    (h : ∀ a, insertedText? (f a).request = none) (items : List α) :
    (items.map f).filterMap (insertedText? ∘ Edit.request) = [] := by
  rw [List.filterMap_eq_nil_iff]
  intro edit hedit
  obtain ⟨a, -, rfl⟩ := List.mem_map.1 hedit
  exact h a

/-- The requests for a marked-up text insert one text, that of the segments. -/
theorem filterMap_insertedText? (raw target : String) :
    ((editsOf raw target).map Edit.request).filterMap insertedText? =
      [(compile (parse raw)).text] := by
  rw [List.filterMap_map, editsOf, edits, List.filterMap_append,
    filterMap_insertedText?_eq_nil fun _ => insertedText?_request _, List.append_nil]
  rw [List.filterMap_cons_some (insertedText?_request _),
    filterMap_insertedText?_eq_nil fun _ => insertedText?_request _]

/-- The requests for a marked-up text insert one text. It is `plainText` of the marked-up text
exactly if taking out the bold spans makes a bullet of no line that is none. Both have the same
`plainText` exactly if the content of no bullet is a bullet again without its bold spans. -/
theorem insertedText_plainText (raw target : String) :
    ∃ text, ((editsOf raw target).map Edit.request).filterMap insertedText? = [text] ∧
      (text = plainText raw ↔
        ∀ line ∈ lines raw, ¬ IsBullet line → ¬ IsBullet (unmarked line)) ∧
      (plainText text = plainText raw ↔
        ∀ content, bulletMark ++ content ∈ lines raw ∨ subBulletMark ++ content ∈ lines raw →
          ¬ IsBullet (unmarked content)) := by
  refine ⟨_, filterMap_insertedText? raw target, ?_, ?_⟩
  · -- Both texts are joined from lines without a break, so they are equal line by line.
    rw [text_compile_parse, plainText_eq, joinLines_map_inj shown_sublist plainLine_sublist]
    simp only [shown_eq_plainLine_iff]
  · rw [plainText_eq, plainText_eq, lines_text_compile_parse, List.map_map,
      joinLines_map_inj (f := plainLine ∘ shown)
        (fun line => (plainLine_sublist _).trans (shown_sublist line)) plainLine_sublist]
    simp only [Function.comp_def, plainLine_shown_iff]
    constructor
    · rintro h content (hline | hline)
      · exact h _ hline (isBullet_bulletMark content)
      · exact h _ hline (isBullet_subBulletMark content)
    · rintro h line hline (⟨content, rfl⟩ | ⟨content, rfl⟩)
      · exact h content (.inl hline)
      · exact h content (.inr hline)

end DeckPlan.Markup
