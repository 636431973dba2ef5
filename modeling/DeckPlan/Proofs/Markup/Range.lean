import DeckPlan.Markup.Edit

/-!
# The ranges of a formatted text

What `compile` makes of any list of segments, said with the places of the segments in the text:

* `offset segments i`: where the `i`-th segment begins;
* `place segments first stop`: the range of the segments from `first` up to but not including
  `stop`;
* `IsRun segments first stop`: these segments are a maximal run of bullets;
* `comesFrom flag segments position`: the character at `position` came from a segment with `flag`.

`IsFormatting` collects what holds of the result: the text is that of the segments, every bold
segment has its own place as a range, every maximal run of bullets has one range, and so a character
is in a range exactly if it came from a segment of that kind.

The loop over the segments is followed with the numbers of the segments in place of offsets
(`runsFrom`). Its invariant is `StartsRun segments first i`: the segments since `first` are
bullets, and no bullet stands right before them.
-/

namespace DeckPlan.Markup

/-- The number of characters before the `i`-th segment. -/
def offset (segments : List Segment) (i : Nat) : Nat :=
  (joinText (segments.take i)).length

/-- Where the segments from `first` up to but not including `stop` stand in the text of all. -/
def place (segments : List Segment) (first stop : Nat) : Range :=
  ⟨offset segments first, offset segments stop⟩

/-- The part of a text that a range marks out. -/
def Range.slice (range : Range) (text : String) : String :=
  String.ofList ((text.toList.take range.stop).drop range.start)

/-- The range holds the character at `position`. -/
def Range.Covers (range : Range) (position : Nat) : Prop :=
  range.start ≤ position ∧ position < range.stop

/-- Whether there is an `i`-th segment and it has the flag. -/
def holdsAt (flag : Segment → Bool) (segments : List Segment) (i : Nat) : Bool :=
  segments[i]?.any flag

/-- The level of the `i`-th segment. -/
def levelAt (segments : List Segment) (i : Nat) : Int :=
  (segments[i]?.map Segment.level).getD 0

/-- The characters of the text, each with the segment it comes from. -/
def sources (segments : List Segment) : List (Char × Segment) :=
  segments.flatMap fun segment => segment.text.toList.map fun c => (c, segment)

/-- Whether there is a character at `position` and the segment it comes from has the flag. -/
def comesFrom (flag : Segment → Bool) (segments : List Segment) (position : Nat) : Bool :=
  (sources segments)[position]?.any fun source => flag source.2

/-- The segments from `first` up to but not including `i` are bullets, and the one before them is
not. -/
structure StartsRun (segments : List Segment) (first i : Nat) : Prop where
  le : first ≤ i
  bullets : ∀ j, first ≤ j → j < i → holdsAt Segment.bullet segments j = true
  left : first = 0 ∨ holdsAt Segment.bullet segments (first - 1) = false

/-- The segments from `first` up to but not including `stop` are a maximal run of bullets. -/
structure IsRun (segments : List Segment) (first stop : Nat) : Prop
    extends StartsRun segments first stop where
  nonempty : first < stop
  right : holdsAt Segment.bullet segments stop = false

/-- The range of a run: its place, with the level of its first segment. -/
def runRange (segments : List Segment) (run : Nat × Nat) : BulletRange :=
  { toRange := place segments run.1 run.2, level := levelAt segments run.1 }

/-- The ranges lie in the text, one behind the other, and hold exactly the characters that come
from segments with the flag. -/
structure MarkOut (flag : Segment → Bool) (segments : List Segment) (text : String)
    (ranges : List Range) : Prop where
  within : ∀ range ∈ ranges, range.start ≤ range.stop ∧ range.stop ≤ text.length
  inOrder : ranges.Pairwise fun range next => range.stop ≤ next.start
  covers : ∀ position, (∃ range ∈ ranges, range.Covers position) ↔
    comesFrom flag segments position = true

/-- The text of the segments with a range for every bold segment and for every run of bullets. -/
structure IsFormatting (segments : List Segment) (formatted : FormattedText) : Prop where
  /-- The text is made of the texts of the segments. -/
  text : formatted.text = String.join (segments.map Segment.text)
  /-- Every character of the text comes from one segment. -/
  chars : formatted.text.toList = (sources segments).map Prod.fst
  /-- The bold ranges are the places of the bold segments, in order. -/
  bold : formatted.bold =
    ((List.range segments.length).filter (holdsAt Segment.bold segments)).map
      fun i => place segments i (i + 1)
  /-- The place of a segment marks out its text. -/
  slice : ∀ i (h : i < segments.length),
    (place segments i (i + 1)).slice formatted.text = segments[i].text
  /-- The bullet ranges are those of the maximal runs of bullets, in order. -/
  bullets : ∃ runs : List (Nat × Nat), runs.Pairwise (fun run next => run.2 < next.1) ∧
    (∀ run, run ∈ runs ↔ IsRun segments run.1 run.2) ∧
    formatted.bullets = runs.map (runRange segments)
  markBold : MarkOut Segment.bold segments formatted.text formatted.bold
  markBullets : MarkOut Segment.bullet segments formatted.text
    (formatted.bullets.map BulletRange.toRange)

/-! ## Offsets -/

theorem joinText_eq_join (segments : List Segment) :
    joinText segments = String.join (segments.map Segment.text) := by
  rw [← String.toList_inj, String.toList_join, toList_joinText, List.flatMap_map]

theorem length_joinText_append (front back : List Segment) :
    (joinText (front ++ back)).length = (joinText front).length + (joinText back).length := by
  simp only [← String.length_toList, toList_joinText, List.flatMap_append, List.length_append]

@[simp]
theorem length_joinText_cons (segment : Segment) (rest : List Segment) :
    (joinText (segment :: rest)).length = segment.text.length + (joinText rest).length := by
  simp only [← String.length_toList, toList_joinText, List.flatMap_cons, List.length_append]

@[simp]
theorem length_joinText_nil : (joinText []).length = 0 := rfl

theorem offset_zero (segments : List Segment) : offset segments 0 = 0 := by
  simp [offset]

/-- A segment ends where the next one starts. -/
theorem offset_succ {segments : List Segment} {i : Nat} {segment : Segment}
    (h : segments[i]? = some segment) :
    offset segments (i + 1) = offset segments i + segment.text.length := by
  rw [offset, List.take_add_one, h, length_joinText_append, Option.toList_some,
    length_joinText_cons, length_joinText_nil, Nat.add_zero, ← offset]

/-- Later segments start later. -/
theorem offset_mono (segments : List Segment) {i j : Nat} (h : i ≤ j) :
    offset segments i ≤ offset segments j := by
  obtain ⟨k, rfl⟩ := Nat.exists_eq_add_of_le h
  rw [offset, offset, List.take_add, length_joinText_append]
  exact Nat.le_add_right _ _

/-- No segment begins behind the end of the text. -/
theorem offset_le_length (segments : List Segment) (i : Nat) :
    offset segments i ≤ (joinText segments).length := by
  conv => rhs; rw [← List.take_append_drop i segments, length_joinText_append]
  exact Nat.le_add_right _ _

/-- Up to the `i`-th segment stands the text of the segments before it. -/
theorem take_offset (segments : List Segment) (i : Nat) :
    (joinText segments).toList.take (offset segments i) = (joinText (segments.take i)).toList := by
  rw [toList_joinText, ← List.take_append_drop i segments, List.flatMap_append,
    List.take_append_drop, offset, ← String.length_toList, toList_joinText, List.take_left]

/-- From the `i`-th segment on stands its text and that of the segments after it. -/
theorem drop_offset (segments : List Segment) (i : Nat) :
    (joinText segments).toList.drop (offset segments i) = (joinText (segments.drop i)).toList := by
  rw [toList_joinText, ← List.take_append_drop i segments, List.flatMap_append,
    List.take_append_drop, offset, ← String.length_toList, toList_joinText, List.drop_left,
    toList_joinText]

/-- A range of segments marks out the text of these segments. -/
theorem slice_place (segments : List Segment) {first stop : Nat} (h : first ≤ stop) :
    (place segments first stop).slice (joinText segments) =
      joinText ((segments.take stop).drop first) := by
  -- What stands from `stop` on does not move the segments before it.
  have hfirst : offset segments first = offset (segments.take stop) first := by
    rw [offset, offset, List.take_take, Nat.min_eq_left h]
  rw [Range.slice, place, take_offset, hfirst, drop_offset, String.ofList_toList]

/-- The own place of a segment marks out its text. -/
theorem slice_place_succ {segments : List Segment} {i : Nat} (h : i < segments.length) :
    (place segments i (i + 1)).slice (joinText segments) = segments[i].text := by
  have hdrop : (segments.take (i + 1)).drop i = [segments[i]] := by
    rw [List.drop_take, Nat.add_sub_cancel_left, List.drop_eq_getElem_cons h]
    rfl
  rw [slice_place segments (Nat.le_succ i), hdrop, joinText_eq_join]
  simp

/-- The first segment of what is left is the `i`-th one, and what follows it is left after it. -/
theorem get_and_tail_of_drop {segments rest : List Segment} {segment : Segment} {i : Nat}
    (h : segments.drop i = segment :: rest) :
    segments[i]? = some segment ∧ segments.drop (i + 1) = rest := by
  rw [← List.head?_drop, ← List.tail_drop, h]
  exact ⟨rfl, rfl⟩

theorem holdsAt_of_getElem? (flag : Segment → Bool) {segments : List Segment} {segment : Segment}
    {i : Nat} (h : segments[i]? = some segment) : holdsAt flag segments i = flag segment := by
  rw [holdsAt, h, Option.any_some]

/-- A flag holds at a place if there is a segment at the place that has it. -/
theorem holdsAt_iff {flag : Segment → Bool} {segments : List Segment} {i : Nat} :
    holdsAt flag segments i = true ↔ ∃ h : i < segments.length, flag segments[i] = true := by
  rw [holdsAt, Option.any_eq_true]
  simp only [List.getElem?_eq_some_iff]
  grind

theorem holdsAt_of_length_le {flag : Segment → Bool} {segments : List Segment} {i : Nat}
    (h : segments.length ≤ i) : holdsAt flag segments i = false := by
  rw [holdsAt, List.getElem?_eq_none h]
  rfl

/-! ## Bold ranges -/

/-- Every bold segment from the `i`-th on has its own place as a range. -/
theorem boldRanges_offset {segments rest : List Segment} {i : Nat} (h : segments.drop i = rest) :
    boldRanges (offset segments i) rest =
      ((List.range' i rest.length).filter (holdsAt Segment.bold segments)).map
        fun i => place segments i (i + 1) := by
  induction rest generalizing i with
  | nil => rfl
  | cons segment rest ih =>
    obtain ⟨hget, htail⟩ := get_and_tail_of_drop h
    rw [boldRanges, ← offset_succ hget, ih htail, List.length_cons, List.range'_succ,
      List.filter_cons, holdsAt_of_getElem? Segment.bold hget]
    cases segment.bold <;> rfl

/-! ## Bullet ranges -/

/-- The runs of bullets from the `i`-th segment on, as their first segment and the one after their
last; `opened` is the first segment of a run that reaches the `i`-th one. -/
def runsFrom (i : Nat) (opened : Option Nat) : List Segment → List (Nat × Nat)
  | [] => opened.toList.map fun first => (first, i)
  | segment :: rest =>
    if segment.bullet then runsFrom (i + 1) (some (opened.getD i)) rest
    else opened.toList.map (fun first => (first, i)) ++ runsFrom (i + 1) none rest

/-- The start of a run in the text and its level. -/
def openedAt (segments : List Segment) (first : Nat) : Nat × Int :=
  (offset segments first, levelAt segments first)

/-- An open run that is closed gives the range from its first segment on. -/
theorem closeRun_openedAt (segments : List Segment) (opened : Option Nat) (i : Nat) :
    closeRun (opened.map (openedAt segments)) (offset segments i) =
      (opened.toList.map fun first => (first, i)).map (runRange segments) := by
  cases opened <;> rfl

/-- The ranges are those of the runs. -/
theorem bulletRanges_offset {segments rest : List Segment} {i : Nat} (opened : Option Nat)
    (h : segments.drop i = rest) :
    bulletRanges (offset segments i) (opened.map (openedAt segments)) rest =
      (runsFrom i opened rest).map (runRange segments) := by
  induction rest generalizing i opened with
  | nil => exact closeRun_openedAt segments opened i
  | cons segment rest ih =>
    obtain ⟨hget, htail⟩ := get_and_tail_of_drop h
    -- A run that starts here gets its level from this segment.
    have hopened : some ((opened.map (openedAt segments)).getD (offset segments i, segment.level)) =
        (some (opened.getD i)).map (openedAt segments) := by
      cases opened
      · simp [openedAt, levelAt, hget]
      · rfl
    rw [bulletRanges, runsFrom, ← offset_succ hget]
    split
    · rw [hopened, ih _ htail]
    · rw [closeRun_openedAt, List.map_append, ← ih none htail, Option.map_none]

/-! ## Runs -/

/-- Only one segment can be the start of the run that reaches the `i`-th one. -/
theorem StartsRun.first_le {segments : List Segment} {first first' i : Nat}
    (h : StartsRun segments first i) (h' : StartsRun segments first' i) : first ≤ first' := by
  refine Nat.le_of_not_lt fun hlt => ?_
  -- The segment right before `first` is in the longer run, so it is a bullet.
  have hbullet := h'.bullets (first - 1) (by omega) (by have := h.le; omega)
  rcases h.left with h0 | hleft
  · omega
  · rw [hleft] at hbullet
    cases hbullet

/-- A run has one start. -/
theorem StartsRun.unique {segments : List Segment} {first first' i : Nat}
    (h : StartsRun segments first i) (h' : StartsRun segments first' i) : first = first' :=
  Nat.le_antisymm (h.first_le h') (h'.first_le h)

/-- A bullet makes the run longer. -/
theorem StartsRun.succ {segments : List Segment} {first i : Nat} (h : StartsRun segments first i)
    (hbullet : holdsAt Segment.bullet segments i = true) : StartsRun segments first (i + 1) where
  le := Nat.le_succ_of_le h.le
  bullets j hfirst hj := by
    rcases Nat.lt_succ_iff_lt_or_eq.1 hj with hj | rfl
    · exact h.bullets j hfirst hj
    · exact hbullet
  left := h.left

/-- After a segment that is no bullet a new run can start. -/
theorem startsRun_succ {segments : List Segment} {i : Nat}
    (h : holdsAt Segment.bullet segments i = false) : StartsRun segments (i + 1) (i + 1) where
  le := Nat.le_refl _
  bullets _ hfirst hj := absurd hfirst (Nat.not_le_of_lt hj)
  left := .inr h

/-- A run does not reach over a segment that is no bullet. -/
theorem IsRun.lt_first {segments : List Segment} {first stop i : Nat}
    (h : IsRun segments first stop) (hi : holdsAt Segment.bullet segments i = false)
    (hstop : i < stop) : i < first := by
  refine Nat.lt_of_not_le fun hfirst => ?_
  have := h.bullets i hfirst hstop
  rw [hi] at this
  cases this

/-- The state of the loop in front of the `i`-th segment: `opened` is the start of the run of
bullets that reaches it, if there is one. -/
structure Follows (segments : List Segment) (i : Nat) (opened : Option Nat) : Prop where
  starts : StartsRun segments (opened.getD i) i
  lt : ∀ first, opened = some first → first < i

/-- At the start no run is open. -/
theorem follows_zero (segments : List Segment) : Follows segments 0 none where
  starts := ⟨Nat.le_refl 0, fun _ _ hj => absurd hj (Nat.not_lt_zero _), .inl rfl⟩
  lt _ h := by cases h

/-- The step of the loop at a bullet. -/
theorem Follows.bullet {segments : List Segment} {i : Nat} {opened : Option Nat}
    (h : Follows segments i opened) (hi : holdsAt Segment.bullet segments i = true) :
    Follows segments (i + 1) (some (opened.getD i)) where
  starts := h.starts.succ hi
  lt _ hfirst := Option.some.inj hfirst ▸ Nat.lt_succ_of_le h.starts.le

/-- The step of the loop at any other segment. -/
theorem follows_none {segments : List Segment} {i : Nat}
    (hi : holdsAt Segment.bullet segments i = false) : Follows segments (i + 1) none where
  starts := startsRun_succ hi
  lt _ h := by cases h

/-- Where no bullet stands, the run that reaches so far is complete. -/
theorem mem_close_iff {segments : List Segment} {i : Nat} {opened : Option Nat}
    (h : Follows segments i opened) (hi : holdsAt Segment.bullet segments i = false)
    (run : Nat × Nat) :
    run ∈ opened.toList.map (fun first => (first, i)) ↔
      run.2 = i ∧ IsRun segments run.1 run.2 := by
  obtain ⟨first, stop⟩ := run
  constructor
  · intro hmem
    obtain ⟨first', hopened, he⟩ := List.mem_map.1 hmem
    cases he
    rw [Option.mem_toList] at hopened
    subst hopened
    exact ⟨rfl, h.starts, h.lt first rfl, hi⟩
  · rintro ⟨hstop, hrun⟩
    dsimp only at hstop
    subst hstop
    -- There is only one start of a run that reaches `i`: the open one, or `i` itself.
    have hfirst := hrun.toStartsRun.unique h.starts
    cases opened with
    | none => exact absurd hfirst (Nat.ne_of_lt hrun.nonempty)
    | some first' =>
      dsimp only [Option.getD_some] at hfirst
      rw [hfirst]
      exact List.mem_map.2 ⟨first', by simp, rfl⟩

/-- The loop finds the runs that end at the `i`-th segment or later, and nothing else. -/
theorem mem_runsFrom_iff {segments rest : List Segment} {i : Nat} {opened : Option Nat}
    (hrest : segments.drop i = rest) (h : Follows segments i opened) (run : Nat × Nat) :
    run ∈ runsFrom i opened rest ↔ i ≤ run.2 ∧ IsRun segments run.1 run.2 := by
  induction rest generalizing i opened with
  | nil =>
    have hlength : segments.length ≤ i := List.drop_eq_nil_iff.1 hrest
    rw [runsFrom, mem_close_iff h (holdsAt_of_length_le hlength)]
    refine and_congr_left fun hrun => ⟨fun hstop => Nat.le_of_eq hstop.symm, fun hstop => ?_⟩
    -- The last segment of a run is a bullet, so there is such a segment.
    have hnonempty := hrun.nonempty
    obtain ⟨hlast, -⟩ := holdsAt_iff.1 (hrun.bullets (run.2 - 1) (by omega) (by omega))
    omega
  | cons segment rest ih =>
    obtain ⟨hget, htail⟩ := get_and_tail_of_drop hrest
    have hholds := holdsAt_of_getElem? Segment.bullet hget
    rw [runsFrom]
    split
    · next hbullet =>
      rw [hbullet] at hholds
      rw [ih htail (h.bullet hholds)]
      -- No run ends in front of a bullet.
      refine and_congr_left fun hrun => ⟨Nat.le_of_succ_le, fun hstop => ?_⟩
      refine Nat.lt_of_le_of_ne hstop fun he => ?_
      rw [he, hrun.right] at hholds
      cases hholds
    · next hbullet =>
      rw [Bool.not_eq_true] at hbullet
      rw [hbullet] at hholds
      -- The open run ends here, and all others end further on.
      rw [List.mem_append, mem_close_iff h hholds, ih htail (follows_none hholds), ← or_and_right]
      exact and_congr_left fun _ => by omega

/-- The runs are found in order, and between two of them there is a segment. -/
theorem pairwise_runsFrom {segments rest : List Segment} {i : Nat} {opened : Option Nat}
    (hrest : segments.drop i = rest) (h : Follows segments i opened) :
    (runsFrom i opened rest).Pairwise fun run next => run.2 < next.1 := by
  induction rest generalizing i opened with
  | nil => cases opened <;> simp [runsFrom]
  | cons segment rest ih =>
    obtain ⟨hget, htail⟩ := get_and_tail_of_drop hrest
    have hholds := holdsAt_of_getElem? Segment.bullet hget
    rw [runsFrom]
    split
    · next hbullet =>
      rw [hbullet] at hholds
      exact ih htail (h.bullet hholds)
    · next hbullet =>
      rw [Bool.not_eq_true] at hbullet
      rw [hbullet] at hholds
      have hnext := follows_none hholds
      -- Runs that are found later cannot reach back over this segment.
      refine List.pairwise_append.2 ⟨by cases opened <;> simp, ih htail hnext, ?_⟩
      intro run hrun next hmem
      obtain ⟨hstop, -⟩ := (mem_close_iff h hholds run).1 hrun
      obtain ⟨hle, hisRun⟩ := (mem_runsFrom_iff htail hnext next).1 hmem
      rw [hstop]
      exact hisRun.lt_first hholds hle

/-! ## The characters in the ranges -/

/-- The characters of the text are those of the segments that they come from. -/
theorem toList_joinText_eq_sources (segments : List Segment) :
    (joinText segments).toList = (sources segments).map Prod.fst := by
  rw [toList_joinText, sources, List.map_flatMap]
  simp [Function.comp_def]

theorem comesFrom_nil (flag : Segment → Bool) (position : Nat) :
    comesFrom flag [] position = false := rfl

/-- A character comes from the first segment if that is long enough, and from the others if not. -/
theorem comesFrom_cons (flag : Segment → Bool) (segment : Segment) (rest : List Segment)
    (position : Nat) :
    comesFrom flag (segment :: rest) position =
      if position < segment.text.length then flag segment
      else comesFrom flag rest (position - segment.text.length) := by
  rw [comesFrom, comesFrom, sources, List.flatMap_cons, ← sources, List.getElem?_append,
    List.length_map, String.length_toList]
  split
  · next h =>
    rw [← String.length_toList] at h
    simp [List.getElem?_eq_getElem h]
  · rfl

/-- The characters of the bold ranges are those of the bold segments. -/
theorem covers_boldRanges_iff (segments : List Segment) (start position : Nat) :
    (∃ range ∈ boldRanges start segments, range.Covers position) ↔
      start ≤ position ∧ comesFrom Segment.bold segments (position - start) = true := by
  induction segments generalizing start with
  | nil => simp [boldRanges, comesFrom_nil]
  | cons segment rest ih =>
    simp only [boldRanges, List.mem_append, or_and_right, exists_or]
    rw [ih, comesFrom_cons, Nat.sub_sub]
    have hown : (∃ range ∈ if segment.bold then [(⟨start, start + segment.text.length⟩ : Range)]
          else [], range.Covers position) ↔
        segment.bold = true ∧ start ≤ position ∧ position < start + segment.text.length := by
      cases segment.bold <;> simp [Range.Covers]
    rw [hown]
    split <;> grind

/-- The range of a run that is closed covers what lies between its start and its end. -/
theorem covers_closeRun_iff (run : Option (Nat × Int)) (stop position : Nat) :
    (∃ range ∈ closeRun run stop, range.Covers position) ↔
      ∃ opened ∈ run, opened.1 ≤ position ∧ position < stop := by
  cases run <;> simp [closeRun, Range.Covers]

/-- The characters of the bullet ranges are those of the run that reaches the segments, and those
of the bullets among the segments. -/
theorem covers_bulletRanges_iff (segments : List Segment) {start : Nat} {run : Option (Nat × Int)}
    (hrun : ∀ opened ∈ run, opened.1 ≤ start) (position : Nat) :
    (∃ range ∈ bulletRanges start run segments, range.Covers position) ↔
      (∃ opened ∈ run, opened.1 ≤ position ∧ position < start) ∨
        start ≤ position ∧ comesFrom Segment.bullet segments (position - start) = true := by
  induction segments generalizing start run with
  | nil => rw [bulletRanges, covers_closeRun_iff]; simp [comesFrom_nil]
  | cons segment rest ih =>
    rw [bulletRanges, comesFrom_cons, Nat.sub_sub]
    split
    · next hbullet =>
      -- The open run takes this segment in, so its characters count as covered from now on.
      have hopened : (run.getD (start, segment.level)).1 ≤ start := by
        cases run with
        | none => exact Nat.le_refl start
        | some opened => exact hrun opened rfl
      rw [ih (by simp; omega)]
      cases run <;> grind
    · next hbullet =>
      simp only [List.mem_append, or_and_right, exists_or]
      rw [ih (by simp), covers_closeRun_iff]
      grind

/-! ## All ranges of a formatted text -/

/-- There is one range of bold text for each bold segment. -/
theorem bold_compile (segments : List Segment) :
    (compile segments).bold =
      ((List.range segments.length).filter (holdsAt Segment.bold segments)).map
        fun i => place segments i (i + 1) := by
  rw [compile, List.range_eq_range', ← boldRanges_offset List.drop_zero, offset_zero]

/-- There is one range of bullets for each run of bullets. -/
theorem bullets_compile (segments : List Segment) :
    (compile segments).bullets = (runsFrom 0 none segments).map (runRange segments) := by
  rw [compile, ← bulletRanges_offset none List.drop_zero, offset_zero, Option.map_none]

/-- The places of segments lie in the text. -/
theorem place_within (segments : List Segment) {first stop : Nat} (h : first ≤ stop) :
    (place segments first stop).start ≤ (place segments first stop).stop ∧
      (place segments first stop).stop ≤ (joinText segments).length :=
  ⟨offset_mono segments h, offset_le_length segments stop⟩

/-- The ranges of bold text mark out the bold segments. -/
theorem markOut_bold (segments : List Segment) :
    MarkOut Segment.bold segments (compile segments).text (compile segments).bold where
  within range hrange := by
    rw [bold_compile] at hrange
    obtain ⟨i, -, rfl⟩ := List.mem_map.1 hrange
    exact place_within segments (Nat.le_succ i)
  inOrder := by
    rw [bold_compile, List.pairwise_map]
    exact (List.pairwise_lt_range.filter _).imp fun hlt => offset_mono segments hlt
  covers position := by
    rw [compile, covers_boldRanges_iff, Nat.sub_zero]
    exact and_iff_right (Nat.zero_le position)

/-- The ranges of bullets mark out the bullets. -/
theorem markOut_bullets (segments : List Segment) :
    MarkOut Segment.bullet segments (compile segments).text
      ((compile segments).bullets.map BulletRange.toRange) where
  within range hrange := by
    rw [bullets_compile, List.map_map] at hrange
    obtain ⟨run, hrun, rfl⟩ := List.mem_map.1 hrange
    obtain ⟨-, hisRun⟩ := (mem_runsFrom_iff List.drop_zero (follows_zero segments) run).1 hrun
    exact place_within segments hisRun.le
  inOrder := by
    rw [bullets_compile, List.map_map, List.pairwise_map]
    exact (pairwise_runsFrom List.drop_zero (follows_zero segments)).imp
      fun hlt => offset_mono segments (Nat.le_of_lt hlt)
  covers position := by
    -- Whether a range covers a character has nothing to do with its level.
    have hmap : (∃ range ∈ (compile segments).bullets.map BulletRange.toRange,
        range.Covers position) ↔ ∃ range ∈ (compile segments).bullets, range.Covers position := by
      constructor
      · rintro ⟨_, hmem, hcovers⟩
        obtain ⟨range, hrange, rfl⟩ := List.mem_map.1 hmem
        exact ⟨range, hrange, hcovers⟩
      · rintro ⟨range, hrange, hcovers⟩
        exact ⟨range.toRange, List.mem_map_of_mem hrange, hcovers⟩
    rw [hmap, compile, covers_bulletRanges_iff segments (by simp), Nat.sub_zero]
    simp

/-- For every list of segments, `compile` gives their text a range for each bold segment and for
each maximal run of bullets, and the edits insert that text, then style the bold ranges, then make
the bullet ranges lists. -/
theorem isFormatting_compile_edits (segments : List Segment) (target : String) :
    IsFormatting segments (compile segments) ∧
      edits segments target = .insertText target (compile segments).text ::
        ((compile segments).bold.map (.applyBold target) ++
          (compile segments).bullets.map (.applyBullets target)) := by
  refine ⟨?_, rfl⟩
  exact
    { text := joinText_eq_join segments
      chars := toList_joinText_eq_sources segments
      bold := bold_compile segments
      slice := fun _ h => slice_place_succ h
      bullets := ⟨runsFrom 0 none segments,
        pairwise_runsFrom List.drop_zero (follows_zero segments),
        fun run => by simp [mem_runsFrom_iff List.drop_zero (follows_zero segments) run],
        bullets_compile segments⟩
      markBold := markOut_bold segments
      markBullets := markOut_bullets segments }

/-- A run of bullets of several levels has one range, with the level of the first bullet. -/
example : (compile [⟨"main", false, true, 0⟩, ⟨"sub", true, true, 1⟩]).bullets =
    [{ start := 0, stop := 7, level := 0 }] := by
  decide

end DeckPlan.Markup
