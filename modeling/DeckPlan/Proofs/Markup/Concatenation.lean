import DeckPlan.Proofs.Markup.LineRange

/-!
# Marked-up texts one below the other

When two marked-up texts are put together with a line break between them, so are their formatted
texts (`FormattedText.above`): the ranges of the second text move on behind the first one and the
line break, and nothing else changes. So a text can be formatted line by line.

The line break is a segment of its own that is neither bold nor a bullet. A run of bullets that is
open in front of it ends there, where it would have ended with the text (`bulletRanges_append`), and
behind it the ranges are those of the second text alone, only further on (`boldRanges_add`,
`bulletRanges_add`).
-/

namespace DeckPlan.Markup

/-- The bullet range `n` characters further on. -/
def BulletRange.shift (n : Nat) (range : BulletRange) : BulletRange :=
  { toRange := range.toRange.shift n, level := range.level }

/-- A formatted text with another one below it: a line break stands between them, and the ranges of
the lower one are counted from the start of the upper one. -/
def FormattedText.above (upper lower : FormattedText) : FormattedText where
  text := upper.text ++ "\n" ++ lower.text
  bold := upper.bold ++ lower.bold.map (Range.shift (upper.text.length + 1))
  bullets := upper.bullets ++ lower.bullets.map (BulletRange.shift (upper.text.length + 1))

/-! ## Segments further on -/

/-- Bold ranges do not depend on one another. -/
theorem boldRanges_append (front back : List Segment) (start : Nat) :
    boldRanges start (front ++ back) =
      boldRanges start front ++ boldRanges (start + (joinText front).length) back := by
  induction front generalizing start with
  | nil => rfl
  | cons segment front ih =>
    rw [List.cons_append, boldRanges, boldRanges, ih, length_joinText_cons, List.append_assoc,
      Nat.add_assoc]

/-- The bold ranges of segments that stand further on. -/
theorem boldRanges_add (n start : Nat) (segments : List Segment) :
    boldRanges (n + start) segments = (boldRanges start segments).map (Range.shift n) := by
  induction segments generalizing start with
  | nil => rfl
  | cons segment rest ih =>
    rw [boldRanges, boldRanges, List.map_append, ← ih, Nat.add_assoc]
    cases segment.bold <;> simp [Range.shift]

/-- The start of a run and its level, `n` characters further on. -/
def shiftRun (n : Nat) (run : Nat × Int) : Nat × Int :=
  (n + run.1, run.2)

/-- A run that is closed further back gives its range further back. -/
theorem closeRun_add (n stop : Nat) (run : Option (Nat × Int)) :
    closeRun (run.map (shiftRun n)) (n + stop) =
      (closeRun run stop).map (BulletRange.shift n) := by
  cases run <;> rfl

/-- The bullet ranges of segments that stand further on, together with the run before them. -/
theorem bulletRanges_add (n start : Nat) (run : Option (Nat × Int)) (segments : List Segment) :
    bulletRanges (n + start) (run.map (shiftRun n)) segments =
      (bulletRanges start run segments).map (BulletRange.shift n) := by
  induction segments generalizing start run with
  | nil => exact closeRun_add n start run
  | cons segment rest ih =>
    rw [bulletRanges, bulletRanges]
    split
    · -- The run that is open behind a bullet starts `n` characters further on, old or new.
      have hrun : some ((run.map (shiftRun n)).getD (n + start, segment.level)) =
          (some (run.getD (start, segment.level))).map (shiftRun n) := by
        cases run <;> rfl
      rw [hrun, Nat.add_assoc, ih]
    · rw [closeRun_add, List.map_append, Nat.add_assoc, ← ih, Option.map_none]

/-! ## Two texts -/

/-- A line break between two texts parts their lines. -/
theorem lines_append_break (upper lower : String) :
    lines (upper ++ "\n" ++ lower) = lines upper ++ lines lower := by
  have hbreak : ("\n" : String).toList = ['\n'] := rfl
  rw [lines, String.toList_append, String.toList_append, hbreak, List.append_assoc,
    List.singleton_append, List.splitOn_append_cons_self, lines, lines]

/-- Parts of two lists are put together with one separator more between the lists. -/
theorem intercalate_append {α : Type} (separator : α) {front back : List (List α)}
    (hfront : front ≠ []) (hback : back ≠ []) :
    [separator].intercalate (front ++ back) =
      [separator].intercalate front ++ separator :: [separator].intercalate back := by
  match front with
  | [part] =>
    rw [List.singleton_append, List.intercalate_cons_of_ne_nil hback, List.intercalate_singleton,
      List.append_assoc, List.singleton_append]
  | part :: next :: front =>
    rw [List.cons_append, List.intercalate_cons_of_ne_nil (by simp),
      List.intercalate_cons_of_ne_nil (by simp),
      intercalate_append separator (List.cons_ne_nil next front) hback]
    simp only [List.append_assoc]

/-- Between the segments of two texts stands the one that holds the line break. -/
theorem parse_append_break (upper lower : String) :
    parse (upper ++ "\n" ++ lower) = parse upper ++ lineBreak :: parse lower := by
  rw [parse, lines_append_break, List.map_append, intercalate_append]
  · rfl
  · simp [lines_ne_nil]
  · simp [lines_ne_nil]

/-- A line break between segments parts their formatted texts. -/
theorem compile_append_lineBreak (front back : List Segment) :
    compile (front ++ lineBreak :: back) = (compile front).above (compile back) := by
  have hlength : lineBreak.text.length = 1 := rfl
  have htext : joinText (front ++ lineBreak :: back) = joinText front ++ "\n" ++ joinText back := by
    simp [← String.toList_inj, lineBreak]
  have hbold : boldRanges 0 (front ++ lineBreak :: back) = boldRanges 0 front ++
      (boldRanges 0 back).map (Range.shift ((joinText front).length + 1)) := by
    rw [boldRanges_append, boldRanges, ← boldRanges_add, hlength, Nat.zero_add, Nat.add_zero]
    rfl
  have hbullets : bulletRanges 0 none (front ++ lineBreak :: back) = bulletRanges 0 none front ++
      (bulletRanges 0 none back).map (BulletRange.shift ((joinText front).length + 1)) := by
    rw [bulletRanges_append front back rfl, ← bulletRanges_add, hlength, Nat.zero_add, Nat.add_zero]
    rfl
  rw [compile, htext, hbold, hbullets]
  rfl

/-- The formatted text of two marked-up texts with a line break between them is that of the first
one above that of the second one, also where bullets stand on both sides of the line break. -/
theorem compile_parse_append_break (upper lower : String) :
    compile (parse (upper ++ "\n" ++ lower)) =
      (compile (parse upper)).above (compile (parse lower)) := by
  rw [parse_append_break, compile_append_lineBreak]

/-- Bullets on both sides of the line break keep a range each. -/
example : (compile (parse "• a\n• b")).bullets =
    [{ start := 0, stop := 1, level := 0 }, { start := 2, stop := 3, level := 0 }] := by
  decide +kernel

end DeckPlan.Markup
