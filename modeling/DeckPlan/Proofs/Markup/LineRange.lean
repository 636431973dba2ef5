import DeckPlan.Proofs.Markup.Line
import DeckPlan.Proofs.Markup.Range
import Mathlib.Data.List.Chain

/-!
# The bullet ranges of a marked-up text

`lineRange text i` is the range of the `i`-th line of a text, without its line break. When a
marked-up text is parsed and compiled,

* its lines are shown one by one (`Shows`), so no line is lost or added;
* every line that is a bullet with something behind its marker (`bulletLevel?`) has one bullet
  range, which is the whole shown line.

`bulletRanges_append` is the reason that no range goes over two lines: the line break between them
is no bullet and closes the run. For the same reason bullets that stand side by side have the same
level (`isChain_parse`), so a run does not mix levels.
-/

namespace DeckPlan.Markup

/-- The range `n` characters further on. -/
def Range.shift (n : Nat) (range : Range) : Range :=
  ⟨n + range.start, n + range.stop⟩

/-- The range of the `i`-th of several lines: a line break follows each of the lines before it. -/
def rangeOfLine (texts : List (List Char)) (i : Nat) : Range :=
  let start := ((texts.take i).flatMap fun text => text ++ ['\n']).length
  ⟨start, start + (texts.getD i []).length⟩

/-- The range of the `i`-th line of a text. -/
def lineRange (text : String) (i : Nat) : Range :=
  rangeOfLine (lines text) i

/-- The level of the bullet that a line is; nothing for other lines and for a bullet marker with
nothing behind it. -/
def bulletLevel? (line : List Char) : Option Nat :=
  if subBulletMark <+: line ∧ line ≠ subBulletMark then some 1
  else if bulletMark <+: line ∧ line ≠ bulletMark then some 0
  else none

/-- The bullet ranges that lines ask for, where the first of them is shown from `start` on. -/
def bulletsOfLines (start : Nat) (texts : List (List Char)) : List BulletRange :=
  (List.range texts.length).filterMap fun i =>
    (texts[i]?.bind bulletLevel?).map fun level : Nat =>
      { toRange := (rangeOfLine (texts.map shown) i).shift start, level }

/-- If both segments are bullets, they have the same level. -/
def SameLevel (segment next : Segment) : Prop :=
  segment.bullet = true → next.bullet = true → segment.level = next.level

/-- The formatted text shows a marked-up text line by line, and its bullet ranges are whole shown
lines. -/
structure ShowsLines (raw : String) (formatted : FormattedText) : Prop where
  /-- There are as many lines as in the marked-up text. -/
  length : (lines formatted.text).length = (lines raw).length
  /-- Every line is shown in its place. -/
  shows : ∀ (i : Nat) (line out : List Char), (lines raw)[i]? = some line →
    (lines formatted.text)[i]? = some out → Shows line out
  /-- Every bullet with something behind its marker has one range, in the order of the lines: its
  shown line. -/
  bullets : formatted.bullets = (List.range (lines raw).length).filterMap fun i =>
    ((lines raw)[i]?.bind bulletLevel?).map fun level : Nat =>
      { toRange := lineRange formatted.text i, level }
  /-- The range of a line marks out the whole line, and no line break with it. -/
  slice : ∀ (i : Nat) (out : List Char), (lines formatted.text)[i]? = some out →
    (lineRange formatted.text i).slice formatted.text = String.ofList out ∧ '\n' ∉ out
  /-- Between two bullet ranges there is a character. -/
  apart : formatted.bullets.Pairwise fun range next => range.stop < next.start
  /-- No run of bullets goes over a line break or mixes levels. -/
  runs : ∀ first stop, IsRun (parse raw) first stop → ∀ j, first ≤ j → j < stop →
    (parse raw)[j]? ≠ some lineBreak ∧ levelAt (parse raw) j = levelAt (parse raw) first

/-! ## Ranges of lines -/

@[simp]
theorem shift_zero (range : Range) : range.shift 0 = range := by
  simp [Range.shift]

/-- A range that is moved twice is moved by both amounts. -/
theorem shift_shift (m n : Nat) (range : Range) :
    (range.shift n).shift m = range.shift (m + n) := by
  simp [Range.shift, Nat.add_assoc]

theorem rangeOfLine_zero (text : List Char) (texts : List (List Char)) :
    rangeOfLine (text :: texts) 0 = ⟨0, text.length⟩ := by
  simp [rangeOfLine]

/-- The range of a later line lies behind the first line and its break. -/
theorem rangeOfLine_succ (text : List Char) (texts : List (List Char)) (i : Nat) :
    rangeOfLine (text :: texts) (i + 1) = (rangeOfLine texts i).shift (text.length + 1) := by
  simp only [rangeOfLine, Range.shift, List.take_succ_cons, List.flatMap_cons, List.length_append,
    List.length_singleton, List.getD_cons_succ, Nat.add_assoc]

/-- Between the ranges of two lines there is a line break. -/
theorem stop_lt_start_rangeOfLine {texts : List (List Char)} {i j : Nat} (h : i < j)
    (hi : i < texts.length) : (rangeOfLine texts i).stop < (rangeOfLine texts j).start := by
  induction texts generalizing i j with
  | nil => simp at hi
  | cons text texts ih =>
    obtain ⟨j, rfl⟩ := Nat.exists_eq_succ_of_ne_zero (Nat.ne_zero_of_lt h)
    rw [rangeOfLine_succ]
    cases i with
    | zero =>
      rw [rangeOfLine_zero, Range.shift]
      dsimp only
      omega
    | succ i =>
      have := ih (Nat.lt_of_succ_lt_succ h) (Nat.lt_of_succ_lt_succ hi)
      rw [rangeOfLine_succ, Range.shift, Range.shift]
      dsimp only
      omega

/-- The range of a line marks out the line. -/
theorem slice_rangeOfLine {texts : List (List Char)} {i : Nat} {text : List Char}
    (h : texts[i]? = some text) :
    (rangeOfLine texts i).slice (joinLines texts) = String.ofList text := by
  rw [Range.slice, joinLines, String.toList_ofList]
  induction texts generalizing i with
  | nil => simp at h
  | cons first texts ih =>
    cases i with
    | zero =>
      obtain rfl : first = text := by simpa using h
      cases texts <;> simp [rangeOfLine_zero]
    | succ i =>
      rw [List.getElem?_cons_succ] at h
      have hne : texts ≠ [] := by
        rintro rfl
        simp at h
      rw [List.intercalate_cons_of_ne_nil hne, rangeOfLine_succ, Range.shift, ← ih h]
      -- The shift of `rangeOfLine_succ` is the first line with its line break.
      have hlength : first.length + 1 = (first ++ ['\n']).length := by simp
      dsimp only
      rw [hlength, List.take_length_add_append, List.drop_length_add_append]

/-! ## Bullets line by line -/

theorem bulletLevel?_bulletMark (content : List Char) :
    bulletLevel? (bulletMark ++ content) = if content = [] then none else some 0 := by
  have h : ¬ subBulletMark <+: bulletMark ++ content := by
    rintro ⟨rest, hrest⟩
    exact absurd (List.cons.inj hrest).1 (by decide)
  simp [bulletLevel?, h]

theorem bulletLevel?_subBulletMark (content : List Char) :
    bulletLevel? (subBulletMark ++ content) = if content = [] then none else some 1 := by
  have h : ¬ bulletMark <+: subBulletMark ++ content := by
    rintro ⟨rest, hrest⟩
    exact absurd (List.cons.inj hrest).1 (by decide)
  simp [bulletLevel?, h]

/-- A line without a mark is no bullet. -/
theorem bulletLevel?_plain {line : List Char} (h : ¬ IsBullet line) : bulletLevel? line = none := by
  rw [IsBullet, not_or] at h
  simp [bulletLevel?, h]

/-- Segments that are no bullets have no bullet range. -/
theorem bulletRanges_of_plain {segments : List Segment}
    (h : ∀ segment ∈ segments, segment.bullet = false) (start : Nat) :
    bulletRanges start none segments = [] := by
  induction segments generalizing start with
  | nil => rfl
  | cons segment rest ih =>
    rw [bulletRanges, h segment List.mem_cons_self,
      ih (fun s hs => h s (List.mem_cons_of_mem _ hs))]
    rfl

/-- Bullets behind an open run make it longer. -/
theorem bulletRanges_of_bullets {segments : List Segment}
    (h : ∀ segment ∈ segments, segment.bullet = true) (start : Nat) (opened : Nat × Int) :
    bulletRanges start (some opened) segments =
      [{ start := opened.1, stop := start + (joinText segments).length, level := opened.2 }] := by
  induction segments generalizing start with
  | nil => rfl
  | cons segment rest ih =>
    rw [bulletRanges, if_pos (h segment List.mem_cons_self), Option.getD_some,
      ih (fun s hs => h s (List.mem_cons_of_mem _ hs)), length_joinText_cons, Nat.add_assoc]

/-- A segment that is no bullet parts the bullet ranges before it from those after it. -/
theorem bulletRanges_append (front back : List Segment) {segment : Segment}
    (h : segment.bullet = false) (start : Nat) (run : Option (Nat × Int)) :
    bulletRanges start run (front ++ segment :: back) =
      bulletRanges start run front ++
        bulletRanges (start + (joinText front).length + segment.text.length) none back := by
  induction front generalizing start run with
  | nil => simp [bulletRanges, h]
  | cons first front ih =>
    rw [List.cons_append, bulletRanges, bulletRanges, ih, ih, length_joinText_cons,
      ← Nat.add_assoc start]
    split
    · rfl
    · rw [List.append_assoc]

/-- A line takes as many characters as are shown of it. -/
theorem length_joinText_segments (line : List Char) :
    (joinText (Line.of line).segments).length = (shown line).length := by
  rw [← String.length_toList, toList_joinText, flatMap_text_segments, shown]

/-- A bullet has one range unless it is empty. -/
theorem bulletRanges_bullet (content : List Char) (level start : Nat) :
    bulletRanges start none (Line.segments ⟨content, some level⟩) =
      if content = [] then []
      else [{ start, stop := start + (unmarked content).length, level }] := by
  split
  · next h => rw [segments_eq_nil_iff.2 h]; rfl
  · next h =>
    -- All segments are bullets of one level: the first opens a run, and the others only extend it.
    have hall : ∀ segment ∈ Line.segments ⟨content, some level⟩,
        segment.bullet = true ∧ segment.level = level :=
      fun segment hsegment => bullet_and_level_of_mem hsegment
    have hlength : (joinText (Line.segments ⟨content, some level⟩)).length =
        (unmarked content).length := by
      rw [← String.length_toList, toList_joinText, flatMap_text_segments]
    have hne : Line.segments ⟨content, some level⟩ ≠ [] := mt segments_eq_nil_iff.1 h
    obtain ⟨segment, rest, hsegments⟩ := List.exists_cons_of_ne_nil hne
    rw [hsegments] at hall hlength ⊢
    obtain ⟨hbullet, hlevel⟩ := hall segment List.mem_cons_self
    rw [bulletRanges, if_pos hbullet, Option.getD_none,
      bulletRanges_of_bullets (fun s hs => (hall s (List.mem_cons_of_mem _ hs)).1), ← hlength,
      length_joinText_cons, hlevel, Nat.add_assoc]

/-- The bullet ranges of one line. -/
theorem bulletRanges_segments (line : List Char) (start : Nat) :
    bulletRanges start none (Line.of line).segments =
      ((bulletLevel? line).map fun level : Nat =>
        ({ start, stop := start + (shown line).length, level } : BulletRange)).toList := by
  induction line using line_cases with
  | bullet content =>
    rw [of_bulletMark, bulletRanges_bullet, bulletLevel?_bulletMark, shown_bulletMark]
    split <;> rfl
  | subBullet content =>
    rw [of_subBulletMark, bulletRanges_bullet, bulletLevel?_subBulletMark, shown_subBulletMark]
    split <;> rfl
  | plain line h =>
    -- No segment of the line is a bullet, so no run is ever opened.
    rw [of_plain h, bulletLevel?_plain h, bulletRanges_of_plain]
    · rfl
    · exact fun segment hsegment => (bullet_and_level_of_mem hsegment).1

/-- The bullets of the first line come first, and the others lie behind it. -/
theorem bulletsOfLines_cons (line : List Char) (texts : List (List Char)) (start : Nat) :
    bulletsOfLines start (line :: texts) =
      bulletRanges start none (Line.of line).segments ++
        bulletsOfLines (start + (shown line).length + 1) texts := by
  have hfirst : (rangeOfLine (shown line :: texts.map shown) 0).shift start =
      ⟨start, start + (shown line).length⟩ := by
    rw [rangeOfLine_zero]
    rfl
  rw [bulletsOfLines, List.length_cons, List.range_succ_eq_map, List.filterMap_cons,
    List.filterMap_map, List.map_cons, hfirst, bulletRanges_segments, bulletsOfLines]
  simp only [List.getElem?_cons_zero, Option.bind_some, Function.comp_def,
    List.getElem?_cons_succ, rangeOfLine_succ, shift_shift, ← Nat.add_assoc]
  cases bulletLevel? line <;> rfl

/-- The bullet ranges of several lines are those of each line, as the line is shown. -/
theorem bulletRanges_intercalate {texts : List (List Char)} (hne : texts ≠ []) (start : Nat) :
    bulletRanges start none
        ([lineBreak].intercalate (texts.map fun line => (Line.of line).segments)) =
      bulletsOfLines start texts := by
  match texts with
  | [line] =>
    rw [bulletsOfLines_cons, List.map_singleton, List.intercalate_singleton]
    exact (List.append_nil _).symm
  | line :: next :: texts =>
    -- The line break behind `line` is no bullet and parts its ranges from those that follow.
    rw [List.map_cons, List.intercalate_cons_of_ne_nil (by simp), List.append_assoc,
      List.singleton_append, bulletRanges_append _ _ rfl, length_joinText_segments,
      bulletRanges_intercalate (List.cons_ne_nil next texts), bulletsOfLines_cons line]
    rfl

/-! ## Levels -/

/-- The segments of a line are all bullets of one level or none. -/
theorem isChain_segments (line : Line) : line.segments.IsChain SameLevel := by
  rw [Line.segments, List.isChain_map]
  exact (List.pairwise_of_forall fun _ _ _ _ => rfl).isChain

/-- Two bullets that stand side by side are on the same line. -/
theorem isChain_intercalate (parts : List Line) :
    ([lineBreak].intercalate (parts.map Line.segments)).IsChain SameLevel := by
  match parts with
  | [] => exact .nil
  | [line] => simpa using isChain_segments line
  | line :: next :: parts =>
    rw [List.map_cons, List.intercalate_cons_of_ne_nil (by simp), List.append_assoc]
    have htail := isChain_intercalate (next :: parts)
    -- On both sides of the line break, one of the two segments is no bullet.
    refine (isChain_segments line).append (htail.cons fun _ _ => ?_) fun _ _ _ hbreak => ?_
    · exact fun hbullet => by cases hbullet
    · obtain rfl := Option.some.inj hbreak
      exact fun _ hbullet => by cases hbullet

/-- Bullets that follow each other have one level, as there is a line break between lines. -/
theorem isChain_parse (raw : String) : (parse raw).IsChain SameLevel := by
  have h := isChain_intercalate ((lines raw).map Line.of)
  rwa [List.map_map] at h

theorem levelAt_of_lt {segments : List Segment} {i : Nat} (h : i < segments.length) :
    levelAt segments i = segments[i].level := by
  rw [levelAt, List.getElem?_eq_getElem h]
  rfl

/-- Where bullets side by side have the same level, all bullets of a run have that of the first. -/
theorem StartsRun.level_eq {segments : List Segment} (h : segments.IsChain SameLevel)
    {first i j : Nat} (hrun : StartsRun segments first i) (hfirst : first ≤ j) (hj : j < i) :
    levelAt segments j = levelAt segments first := by
  induction hfirst with
  | refl => rfl
  | @step j hfirst ih =>
    obtain ⟨hlt, hbullet⟩ := holdsAt_iff.1 (hrun.bullets j hfirst (Nat.lt_of_succ_lt hj))
    obtain ⟨hlt', hbullet'⟩ := holdsAt_iff.1 (hrun.bullets (j + 1) (Nat.le_succ_of_le hfirst) hj)
    rw [← ih (Nat.lt_of_succ_lt hj), levelAt_of_lt hlt, levelAt_of_lt hlt']
    exact (h.getElem j hlt' hbullet hbullet').symm

/-! ## The lines of a compiled parse -/

/-- The ranges of bullets are those of the lines. -/
theorem bullets_compile_parse (raw : String) :
    (compile (parse raw)).bullets = bulletsOfLines 0 (lines raw) :=
  bulletRanges_intercalate (lines_ne_nil raw) 0

/-- The ranges of the bullets are apart, because those of the lines are. -/
theorem pairwise_bulletsOfLines (texts : List (List Char)) (start : Nat) :
    (bulletsOfLines start texts).Pairwise fun range next => range.stop < next.start := by
  rw [bulletsOfLines, List.pairwise_filterMap]
  refine List.pairwise_lt_range.imp_of_mem ?_
  intro i j hi _ hlt range hrange next hnext
  obtain ⟨_, -, rfl⟩ := Option.map_eq_some_iff.1 hrange
  obtain ⟨_, -, rfl⟩ := Option.map_eq_some_iff.1 hnext
  have hi' : i < (texts.map shown).length := by simpa using hi
  exact Nat.add_lt_add_left (stop_lt_start_rangeOfLine hlt hi') start

/-- Parsing and compiling a text shows it line by line, and gives every bullet that is not empty
its whole shown line as a range. -/
theorem showsLines_compile_parse (raw : String) : ShowsLines raw (compile (parse raw)) where
  length := by
    rw [lines_text_compile_parse, List.length_map]
  shows i line out hline hout := by
    rw [lines_text_compile_parse, List.getElem?_map, hline] at hout
    exact shows_iff.2 (Option.some.inj hout)
  bullets := by
    rw [bullets_compile_parse, bulletsOfLines]
    simp only [shift_zero, lineRange, lines_text_compile_parse]
  slice i out hout := by
    refine ⟨?_, noBreak_of_mem_lines (List.mem_of_getElem? hout)⟩
    have := slice_rangeOfLine hout
    rwa [joinLines_lines] at this
  apart := by
    rw [bullets_compile_parse]
    exact pairwise_bulletsOfLines (lines raw) 0
  runs first stop hrun j hfirst hj := by
    -- A line break is no bullet, so no run goes on over one.
    refine ⟨fun hbreak => ?_, hrun.toStartsRun.level_eq (isChain_parse raw) hfirst hj⟩
    have hbullet := hrun.bullets j hfirst hj
    rw [holdsAt_of_getElem? _ hbreak] at hbullet
    cases hbullet

/-- A bullet with nothing behind its marker has no range, and one with an empty bold span has an
empty one. -/
example :
    (bulletLevel? bulletMark, bulletLevel? (bulletMark ++ "****".toList)) = (none, some 0) := by
  decide

end DeckPlan.Markup
