import DeckPlan.Markup.Span

/-!
# Cutting a text into bold spans

What `closing?`, `spans` and `unmarked` compute, said without them:

* `IsSpan s inner after`: a bold span with the text `inner` stands at the start of `s`, and
  `Opens s`: there is such a span;
* `Unmarks s out`: going through `s` from left to right and replacing each bold span by its text
  gives `out`;
* `Spanless s`: no bold span starts anywhere in `s`.

The main statements are:

* `span_induction`: a text is empty, starts with a span, or starts with a plain character;
* `flatMap_marked_spans`: the spans with their markers are the text;
* `unmarks_iff`: `unmarked` replaces the spans as `Unmarks` says;
* `unmarked_append_break`: spans are taken out line by line;
* `spanless_unmarked`: taking out the markers never makes a new span out of what is left, so a
  second time changes nothing (`unmarked_unmarked`).
-/

namespace DeckPlan.Markup

/-- What stands on both sides of bold text. -/
def marker : List Char := ['*', '*']

/-- A bold span with the text `inner` stands at the start of `s`, and `after` follows it. The span
ends at the first marker after its opening one and holds no line break. -/
structure IsSpan (s inner after : List Char) : Prop where
  /-- The span and what follows it are the text. -/
  split : s = marker ++ inner ++ marker ++ after
  /-- The span lies on one line. -/
  noBreak : '\n' ∉ inner
  /-- No marker closes the span earlier. -/
  shortest : ∀ inner' after', inner ++ marker ++ after = inner' ++ marker ++ after' →
    inner.length ≤ inner'.length

/-- A bold span stands at the start of `s`. -/
def Opens (s : List Char) : Prop :=
  ∃ inner after, IsSpan s inner after

/-- The text `out` is `s` with its bold spans, taken from left to right, replaced by their text. -/
inductive Unmarks : List Char → List Char → Prop
  | nil : Unmarks [] []
  | span {s inner after out : List Char} :
      IsSpan s inner after → Unmarks after out → Unmarks s (inner ++ out)
  | plain {c : Char} {s out : List Char} :
      ¬ Opens (c :: s) → Unmarks s out → Unmarks (c :: s) (c :: out)

/-- No bold span starts anywhere in `s`. -/
def Spanless (s : List Char) : Prop :=
  ∀ rest, rest <:+ s → ¬ Opens rest

/-- A span as it is written. -/
def Span.marked (span : Span) : List Char :=
  if span.bold then marker ++ span.chars ++ marker else span.chars

/-! ## The end of a span -/

/-- At a character that neither ends the line nor starts a marker the search goes on. -/
theorem closing?_cons {c : Char} {s : List Char} (hbreak : c ≠ '\n')
    (hmarker : c = '*' → s.head? ≠ some '*') :
    closing? (c :: s) = (closing? s).map fun (inner, after) => (c :: inner, after) := by
  rw [closing?]
  · exact hbreak
  · rintro rest rfl rfl
    exact hmarker rfl rfl

/-- A closing marker is still there if a character of the same line is put in front. -/
theorem isSome_closing?_cons {c : Char} {s : List Char} (hbreak : c ≠ '\n')
    (h : (closing? s).isSome) : (closing? (c :: s)).isSome := by
  by_cases hmarker : c = '*' ∧ s.head? = some '*'
  · -- The new star makes a marker with the first one of `s`, which closes at once.
    obtain ⟨rfl, hs⟩ := hmarker
    obtain ⟨rest, rfl⟩ := List.head?_eq_some_iff.1 hs
    rfl
  · rw [closing?_cons hbreak fun hc hs => hmarker ⟨hc, hs⟩, Option.isSome_map]
    exact h

/-- The text of the span, the marker and what follows them make up the text searched. -/
theorem split_of_closing? {s inner after : List Char} (h : closing? s = some (inner, after)) :
    s = inner ++ marker ++ after := by
  fun_induction closing? s generalizing inner with
  | case1 => simp at h
  | case2 => simp at h
  | case3 rest =>
    cases h
    rfl
  | case4 c rest _ _ ih =>
    obtain ⟨⟨inner', after'⟩, h', he⟩ := Option.map_eq_some_iff.1 h
    cases he
    rw [ih h']
    rfl

/-- The text of a span holds no line break. -/
theorem noBreak_of_closing? {s inner after : List Char} (h : closing? s = some (inner, after)) :
    '\n' ∉ inner := by
  fun_induction closing? s generalizing inner with
  | case1 => simp at h
  | case2 => simp at h
  | case3 =>
    cases h
    exact List.not_mem_nil
  | case4 c rest hbreak _ ih =>
    obtain ⟨⟨inner', after'⟩, h', he⟩ := Option.map_eq_some_iff.1 h
    cases he
    rw [List.mem_cons, not_or]
    exact ⟨fun hc => hbreak hc.symm, ih h'⟩

/-- No marker stands before the one that is found. -/
theorem shortest_of_closing? {s inner after inner' after' : List Char}
    (h : closing? s = some (inner, after)) (hs : s = inner' ++ marker ++ after') :
    inner.length ≤ inner'.length := by
  fun_induction closing? s generalizing inner inner' with
  | case1 => simp at h
  | case2 => simp at h
  | case3 =>
    cases h
    exact Nat.zero_le _
  | case4 c rest _ hmarker ih =>
    obtain ⟨⟨tail, after'⟩, h', he⟩ := Option.map_eq_some_iff.1 h
    cases he
    cases inner' with
    | nil =>
      -- A marker at the start would have ended the search.
      obtain ⟨rfl, rfl⟩ := List.cons.inj hs
      exact absurd rfl (hmarker _ rfl)
    | cons d inner' =>
      have hrest := (List.cons.inj hs).2
      exact Nat.succ_le_succ (ih h' hrest)

/-- A marker on the same line is found, or one before it. -/
theorem isSome_closing?_append (inner after : List Char) (h : '\n' ∉ inner) :
    (closing? (inner ++ marker ++ after)).isSome := by
  induction inner with
  | nil => rfl
  | cons c inner ih =>
    rw [List.mem_cons, not_or] at h
    exact isSome_closing?_cons (Ne.symm h.1) (ih h.2)

/-- What lies behind the end of the line has no part in the search. -/
theorem closing?_append_break (s rest : List Char) :
    closing? (s ++ '\n' :: rest) =
      (closing? s).map fun (inner, after) => (inner, after ++ '\n' :: rest) := by
  fun_induction closing? s with
  | case1 => rfl
  | case2 => rfl
  | case3 => rfl
  | case4 c s hbreak hmarker ih =>
    -- At the end of `s` stands a line break, which makes no marker with `c`.
    have hmarker' : c = '*' → (s ++ '\n' :: rest).head? ≠ some '*' := by
      rintro rfl hhead
      cases s with
      | nil => simp at hhead
      | cons d s => exact hmarker s rfl (by simpa using hhead)
    rw [List.cons_append, closing?_cons hbreak hmarker', ih, Option.map_map, Option.map_map]
    rfl

/-! ## Where a span stands -/

/-- A span stands at the start of a text exactly if its opening marker does and `closing?` finds
its end. -/
theorem isSpan_iff {s inner after : List Char} :
    IsSpan s inner after ↔
      ∃ rest, s = '*' :: '*' :: rest ∧ closing? rest = some (inner, after) := by
  constructor
  · rintro ⟨rfl, noBreak, shortest⟩
    refine ⟨inner ++ marker ++ after, by simp [marker], ?_⟩
    obtain ⟨⟨inner', after'⟩, found⟩ :=
      Option.isSome_iff_exists.1 (isSome_closing?_append inner after noBreak)
    -- Both texts are as short as possible, so they are the same part of `s`.
    have hle := shortest_of_closing? found rfl
    have hsplit := split_of_closing? found
    have hlength : inner.length = inner'.length :=
      Nat.le_antisymm (shortest inner' after' hsplit) hle
    rw [List.append_assoc, List.append_assoc] at hsplit
    obtain ⟨rfl, htail⟩ := List.append_inj hsplit hlength
    rw [found, List.append_cancel_left htail]
  · rintro ⟨rest, rfl, found⟩
    have hsplit := split_of_closing? found
    refine ⟨by rw [hsplit]; simp [marker], noBreak_of_closing? found, fun inner' after' h => ?_⟩
    exact shortest_of_closing? found (hsplit.trans h)

/-- A span opens at two stars behind which it is closed. -/
theorem opens_iff {s : List Char} :
    Opens s ↔ ∃ rest, s = '*' :: '*' :: rest ∧ (closing? rest).isSome := by
  simp only [Opens, isSpan_iff, Option.isSome_iff_exists, Prod.exists]
  exact ⟨fun ⟨inner, after, rest, hs, h⟩ => ⟨rest, hs, inner, after, h⟩,
    fun ⟨rest, hs, inner, after, h⟩ => ⟨inner, after, rest, hs, h⟩⟩

/-- A span stands at the start of every text that holds two markers on one line and starts with
the first of them. -/
theorem opens_append {inner : List Char} (after : List Char) (h : '\n' ∉ inner) :
    Opens (marker ++ inner ++ marker ++ after) :=
  opens_iff.2 ⟨inner ++ marker ++ after, by simp [marker], isSome_closing?_append inner after h⟩

theorem not_opens_nil : ¬ Opens [] := by
  simp [opens_iff]

/-- Only a star starts a span. -/
theorem not_opens_of_ne {c : Char} {s : List Char} (h : c ≠ '*') : ¬ Opens (c :: s) := by
  rw [opens_iff]
  rintro ⟨rest, hs, -⟩
  exact h (List.cons.inj hs).1

/-- Before a text without a marker on its first line, no character starts a span. -/
theorem not_opens_cons_of_closing? {c : Char} {s : List Char} (h : closing? s = none) :
    ¬ Opens (c :: s) := by
  rw [opens_iff]
  rintro ⟨rest, hs, found⟩
  obtain ⟨rfl, rfl⟩ := List.cons.inj hs
  have : (closing? ('*' :: rest)).isSome := isSome_closing?_cons (by decide) found
  rw [h] at this
  simp at this

/-- What lies behind the end of the line has no part in a span. -/
theorem isSpan_append_break {s inner after : List Char} (h : IsSpan s inner after)
    (rest : List Char) : IsSpan (s ++ '\n' :: rest) inner (after ++ '\n' :: rest) := by
  obtain ⟨tail, rfl, found⟩ := isSpan_iff.1 h
  exact isSpan_iff.2 ⟨tail ++ '\n' :: rest, rfl, by rw [closing?_append_break, found]; rfl⟩

/-- What stands behind a line break does not decide whether a span opens. -/
theorem opens_append_break_iff {c : Char} {s rest : List Char} :
    Opens (c :: (s ++ '\n' :: rest)) ↔ Opens (c :: s) := by
  constructor
  · intro h
    obtain ⟨tail, hsplit, found⟩ := opens_iff.1 h
    obtain ⟨rfl, htail⟩ := List.cons.inj hsplit
    -- Both stars of the opening marker stand before the line break.
    cases s with
    | nil => simp at htail
    | cons d s =>
      rw [List.cons_append] at htail
      obtain ⟨rfl, rfl⟩ := List.cons.inj htail
      rw [closing?_append_break, Option.isSome_map] at found
      exact opens_iff.2 ⟨s, rfl, found⟩
  · rintro ⟨inner, after, h⟩
    exact ⟨inner, _, isSpan_append_break h rest⟩

/-- What follows a span is shorter than the text. -/
theorem IsSpan.length_lt {s inner after : List Char} (h : IsSpan s inner after) :
    after.length < s.length := by
  rw [h.split]
  simp [marker]
  omega

/-- A text is empty, or a span stands at its start, or its first character is plain. -/
@[elab_as_elim]
theorem span_induction {motive : List Char → Prop} (nil : motive [])
    (span : ∀ s inner after, IsSpan s inner after → motive after → motive s)
    (plain : ∀ c s, ¬ Opens (c :: s) → motive s → motive (c :: s)) (s : List Char) : motive s := by
  -- Induction on the length, because the text after a span is no tail that a list recursion gives.
  induction h : s.length using Nat.strongRecOn generalizing s with
  | ind n ih =>
    subst h
    by_cases hs : Opens s
    · obtain ⟨inner, after, hspan⟩ := hs
      exact span s inner after hspan (ih _ hspan.length_lt after rfl)
    · cases s with
      | nil => exact nil
      | cons c s => exact plain c s hs (ih _ (Nat.lt_succ_self _) s rfl)

/-! ## The spans of a text -/

@[simp]
theorem spans_nil : spans [] = [] := by
  rw [spans]

/-- A span comes first, and the others are those of what stands behind it. -/
theorem spans_of_isSpan {s inner after : List Char} (h : IsSpan s inner after) :
    spans s = ⟨inner, true⟩ :: spans after := by
  obtain ⟨rest, rfl, found⟩ := isSpan_iff.1 h
  rw [spans]
  split
  · next h' =>
    rw [found] at h'
    cases h'
    rfl
  · next h' => simp [found] at h'

/-- Where no span opens, a character is plain. -/
theorem spans_cons {c : Char} {s : List Char} (h : ¬ Opens (c :: s)) :
    spans (c :: s) = consPlain c (spans s) := by
  by_cases hmarker : c = '*' ∧ s.head? = some '*'
  · -- A marker stands here, but nothing closes it.
    obtain ⟨rfl, hs⟩ := hmarker
    obtain ⟨rest, rfl⟩ := List.head?_eq_some_iff.1 hs
    rw [spans]
    split
    · next h' => exact absurd (opens_iff.2 ⟨rest, rfl, by rw [h']; rfl⟩) h
    · rfl
  · rw [spans]
    rintro rest rfl rfl
    exact hmarker ⟨rfl, rfl⟩

/-- A property of the spans that is read off character by character sees a plain character in
front as one character more. -/
theorem flatMap_consPlain {f : Span → List Char} (hnil : f ⟨[], false⟩ = [])
    (hcons : ∀ c chars, f ⟨c :: chars, false⟩ = c :: f ⟨chars, false⟩) (c : Char)
    (later : List Span) : (consPlain c later).flatMap f = c :: later.flatMap f := by
  match later with
  | [] => simp [consPlain, hcons, hnil]
  | ⟨chars, false⟩ :: later => simp [consPlain, hcons]
  | ⟨chars, true⟩ :: later => simp [consPlain, hcons, hnil]

theorem consPlain_ne_nil (c : Char) (later : List Span) : consPlain c later ≠ [] := by
  unfold consPlain
  split <;> simp

/-- Only the empty text has no spans. -/
theorem spans_eq_nil_iff {s : List Char} : spans s = [] ↔ s = [] := by
  induction s using span_induction with
  | nil => simp
  | span s inner after h _ =>
    have : s ≠ [] := by
      rintro rfl
      exact not_opens_nil ⟨inner, after, h⟩
    simp [spans_of_isSpan h, this]
  | plain c s h _ => simp [spans_cons h, consPlain_ne_nil]

/-- The spans with their markers are the text: none of it is lost and none of it is doubled. -/
theorem flatMap_marked_spans (s : List Char) : (spans s).flatMap Span.marked = s := by
  induction s using span_induction with
  | nil => simp
  | span s inner after h ih =>
    rw [spans_of_isSpan h, List.flatMap_cons, ih, h.split]
    rfl
  | plain c s h ih =>
    rw [spans_cons h, flatMap_consPlain rfl fun _ _ => rfl, ih]

/-! ## The text without the markers -/

@[simp]
theorem unmarked_nil : unmarked [] = [] := by
  simp [unmarked]

/-- Of a span its inside is shown. -/
theorem unmarked_of_isSpan {s inner after : List Char} (h : IsSpan s inner after) :
    unmarked s = inner ++ unmarked after := by
  rw [unmarked, spans_of_isSpan h, List.flatMap_cons]
  rfl

/-- Where no span opens, a character is shown. -/
theorem unmarked_cons {c : Char} {s : List Char} (h : ¬ Opens (c :: s)) :
    unmarked (c :: s) = c :: unmarked s := by
  rw [unmarked, spans_cons h, flatMap_consPlain rfl fun _ _ => rfl]
  rfl

/-- There is exactly one way to replace the spans of a text, and `unmarked` follows it. -/
theorem unmarks_iff {s out : List Char} : Unmarks s out ↔ unmarked s = out := by
  constructor
  · intro h
    induction h with
    | nil => exact unmarked_nil
    | span h _ ih => rw [unmarked_of_isSpan h, ih]
    | plain h _ ih => rw [unmarked_cons h, ih]
  · rintro rfl
    induction s using span_induction with
    | nil => simpa using Unmarks.nil
    | span s inner after h ih =>
      rw [unmarked_of_isSpan h]
      exact .span h ih
    | plain c s h ih =>
      rw [unmarked_cons h]
      exact .plain h ih

/-- Taking out the markers leaves the other characters in their order. -/
theorem unmarked_sublist (s : List Char) : (unmarked s).Sublist s := by
  induction s using span_induction with
  | nil => simp
  | span s inner after h ih =>
    rw [unmarked_of_isSpan h]
    conv => rhs; rw [h.split, List.append_assoc, List.append_assoc]
    -- Two markers are left out: the one behind `inner` and the one before it.
    exact (List.Sublist.append (List.Sublist.refl inner)
      (ih.trans (List.sublist_append_right marker after))).trans
      (List.sublist_append_right marker _)
  | plain c s h ih =>
    rw [unmarked_cons h]
    exact ih.cons_cons c

/-- Spans are taken out line by line. -/
theorem unmarked_append_break (s rest : List Char) :
    unmarked (s ++ '\n' :: rest) = unmarked s ++ '\n' :: unmarked rest := by
  induction s using span_induction with
  | nil => simp [unmarked_cons (not_opens_of_ne (c := '\n') (by decide))]
  | span s inner after h ih =>
    rw [unmarked_of_isSpan (isSpan_append_break h rest), unmarked_of_isSpan h, ih,
      List.append_assoc]
  | plain c s h ih =>
    rw [List.cons_append, unmarked_cons fun h' => h (opens_append_break_iff.1 h'),
      unmarked_cons h, ih, List.cons_append]

/-- Text without stars stays in front of what its spans leave. -/
theorem unmarked_append_of_noStar {front : List Char} (h : '*' ∉ front) (s : List Char) :
    unmarked (front ++ s) = front ++ unmarked s := by
  induction front with
  | nil => rfl
  | cons c front ih =>
    rw [List.mem_cons, not_or] at h
    rw [List.cons_append, unmarked_cons (not_opens_of_ne (Ne.symm h.1)), ih h.2, List.cons_append]

/-! ## No new spans -/

theorem spanless_nil : Spanless [] := by
  intro rest h
  rw [List.suffix_nil] at h
  rw [h]
  exact not_opens_nil

/-- A text has no spans if none opens at its start or later. -/
theorem spanless_cons_iff {c : Char} {s : List Char} :
    Spanless (c :: s) ↔ ¬ Opens (c :: s) ∧ Spanless s := by
  simp [Spanless, List.suffix_cons_iff, or_imp, forall_and]

/-- No part of a spanless text is made of two markers with no line break between them. -/
theorem spanless_iff {s : List Char} :
    Spanless s ↔ ∀ before inner after, s = before ++ marker ++ inner ++ marker ++ after →
      '\n' ∈ inner := by
  constructor
  · intro h before inner after hs
    refine Decidable.byContradiction fun hbreak => ?_
    refine h (marker ++ inner ++ marker ++ after) ⟨before, ?_⟩ (opens_append after hbreak)
    rw [hs]
    simp only [List.append_assoc]
  · rintro h rest ⟨before, rfl⟩ ⟨inner, after, hspan⟩
    refine hspan.noBreak (h before inner after ?_)
    rw [hspan.split]
    simp only [List.append_assoc]

/-- Where there is no span, nothing is taken out. -/
theorem unmarked_of_spanless {s : List Char} (h : Spanless s) : unmarked s = s := by
  induction s with
  | nil => exact unmarked_nil
  | cons c s ih =>
    obtain ⟨hc, hs⟩ := spanless_cons_iff.1 h
    rw [unmarked_cons hc, ih hs]

/-- A text without a span is one plain piece. -/
theorem spans_of_spanless {s : List Char} (h : Spanless s) (hne : s ≠ []) :
    spans s = [⟨s, false⟩] := by
  induction s with
  | nil => exact absurd rfl hne
  | cons c s ih =>
    obtain ⟨hc, hs⟩ := spanless_cons_iff.1 h
    rw [spans_cons hc]
    cases s with
    | nil =>
      rw [spans_nil]
      rfl
    | cons d s => rw [ih hs (List.cons_ne_nil d s), consPlain]

/-- What stands at the end of a text without a span has none either. -/
theorem Spanless.of_suffix {s rest : List Char} (h : Spanless s) (hrest : rest <:+ s) :
    Spanless rest :=
  fun part hpart => h part (hpart.trans hrest)

/-- Spans lie on one line, so a text has none exactly if its lines have none. -/
theorem spanless_append_break_iff {s rest : List Char} :
    Spanless (s ++ '\n' :: rest) ↔ Spanless s ∧ Spanless rest := by
  induction s with
  | nil =>
    have hbreak : ¬ Opens ('\n' :: rest) := not_opens_of_ne (by decide)
    rw [List.nil_append, spanless_cons_iff, and_iff_right hbreak, and_iff_right spanless_nil]
  | cons c s ih =>
    rw [List.cons_append, spanless_cons_iff, opens_append_break_iff, ih, spanless_cons_iff,
      and_assoc]

/-- A star at the start comes from a star at the start. -/
theorem head?_of_head?_unmarked {s : List Char} (h : (unmarked s).head? = some '*') :
    s.head? = some '*' := by
  by_cases hs : Opens s
  · obtain ⟨rest, rfl, -⟩ := opens_iff.1 hs
    rfl
  · cases s with
    | nil => simp at h
    | cons c s =>
      rw [unmarked_cons hs] at h
      exact h

/-- A first line without a marker does not get one. -/
theorem closing?_unmarked {s : List Char} (h : closing? s = none) :
    closing? (unmarked s) = none := by
  induction s with
  | nil => simpa using h
  | cons c s ih =>
    by_cases hbreak : c = '\n'
    · subst hbreak
      rw [unmarked_cons (not_opens_of_ne (by decide))]
      rfl
    · -- The line goes on in `s`, which has no marker on it either.
      have hs : closing? s = none := by
        rw [← Option.not_isSome_iff_eq_none]
        intro hs
        have := isSome_closing?_cons hbreak hs
        rw [h] at this
        simp at this
      have hmarker : c = '*' → (unmarked s).head? ≠ some '*' := by
        rintro rfl hhead
        obtain ⟨rest, rfl⟩ := List.head?_eq_some_iff.1 (head?_of_head?_unmarked hhead)
        simp [closing?] at h
      rw [unmarked_cons (not_opens_cons_of_closing? hs), closing?_cons hbreak hmarker, ih hs]
      rfl

/-- The text of a span neither holds a marker nor forms one with what comes after it. -/
theorem spanless_append {s inner after rest : List Char} (h : closing? s = some (inner, after))
    (hrest : Spanless rest) : Spanless (inner ++ rest) := by
  fun_induction closing? s generalizing inner with
  | case1 => simp at h
  | case2 => simp at h
  | case3 =>
    cases h
    exact hrest
  | case4 c s _ hmarker ih =>
    obtain ⟨⟨inner', after'⟩, found, he⟩ := Option.map_eq_some_iff.1 h
    cases he
    refine spanless_cons_iff.2 ⟨fun hopens => ?_, ih found⟩
    obtain ⟨tail, hstars, -⟩ := opens_iff.1 hopens
    obtain ⟨hc, hd⟩ := List.cons.inj hstars
    -- The second star would be the first character of `s`.
    have hs := split_of_closing? found
    cases inner' with
    | nil => exact hmarker _ hc hs
    | cons d inner' =>
      obtain ⟨rfl, -⟩ := List.cons.inj hd
      exact hmarker _ hc hs

/-- A plain character does not start a span in the text without the markers either. -/
theorem not_opens_cons_unmarked {c : Char} {s : List Char} (h : ¬ Opens (c :: s)) :
    ¬ Opens (c :: unmarked s) := by
  intro hopens
  obtain ⟨tail, hstars, found⟩ := opens_iff.1 hopens
  obtain ⟨rfl, htail⟩ := List.cons.inj hstars
  obtain ⟨rest, rfl⟩ := List.head?_eq_some_iff.1
    (head?_of_head?_unmarked (s := s) (by rw [htail]; rfl))
  -- The marker is in the text already, so its first line has no second one.
  have hrest : closing? rest = none := by
    rw [← Option.not_isSome_iff_eq_none]
    exact fun hrest => h (opens_iff.2 ⟨rest, rfl, hrest⟩)
  rw [unmarked_cons (not_opens_cons_of_closing? hrest)] at htail
  obtain ⟨-, rfl⟩ := List.cons.inj htail
  rw [closing?_unmarked hrest] at found
  simp at found

/-- The text without the markers has no span: left-over stars never make a new one. -/
theorem spanless_unmarked (s : List Char) : Spanless (unmarked s) := by
  induction s using span_induction with
  | nil => simpa using spanless_nil
  | span s inner after h ih =>
    obtain ⟨rest, rfl, found⟩ := isSpan_iff.1 h
    rw [unmarked_of_isSpan h]
    exact spanless_append found ih
  | plain c s h ih =>
    rw [unmarked_cons h]
    exact spanless_cons_iff.2 ⟨not_opens_cons_unmarked h, ih⟩

/-- A second time there is nothing to take out. -/
@[simp]
theorem unmarked_unmarked (s : List Char) : unmarked (unmarked s) = unmarked s :=
  unmarked_of_spanless (spanless_unmarked s)

end DeckPlan.Markup
