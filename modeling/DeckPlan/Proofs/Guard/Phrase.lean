import DeckPlan.Guard.Inputs
import DeckPlan.Proofs.Text.Shrinking
import DeckPlan.Proofs.Text.Trim
import Mathlib.Data.List.Forall2

/-!
# What is left after the phrases are taken out

`IsForm phrase found` says that a text is the phrase in any letter case, and `Cut phrase s pieces`
that the pieces are what stands around the occurrences of the phrase that are taken out of `s`.

* `mentions_iff`: a phrase is mentioned if a form of it stands somewhere in the text;
* `cut_withoutPhrase`: what is kept is the pieces in a row, and none of them mentions the phrase, so
  only two pieces that meet can make a new occurrence;
* `withoutPhrases_eq_self_iff`: the texts that cleaning leaves alone are those without blanks at
  their ends that mention no phrase.

Cleaning goes through the text once for each phrase, so an occurrence that is made when two pieces
meet may stay. None is left exactly if a second cleaning changes nothing (`isFree_sanitize_iff`),
and finitely many cleanings suffice for every text (`exists_isFree_iterate`).
-/

namespace DeckPlan.Guard

/-- The text is the phrase in any letter case. -/
def IsForm (phrase found : List Char) : Prop :=
  List.Forall₂ (fun letter c => isFormOf letter c = true) phrase found

/-- The text is cut at occurrences of the phrase into pieces that do not mention it. -/
inductive Cut (phrase : List Char) : List Char → List (List Char) → Prop
  | whole {piece : List Char} : mentions phrase piece = false → Cut phrase piece [piece]
  | around {piece found rest : List Char} {pieces : List (List Char)} :
      mentions phrase piece = false → IsForm phrase found → Cut phrase rest pieces →
        Cut phrase (piece ++ found ++ rest) (piece :: pieces)

variable {phrase s : List Char}

/-! ## Occurrences of a phrase -/

/-- A text starts with a phrase if it starts with one of the forms of the phrase. -/
theorem startsWithPhrase_iff :
    startsWithPhrase phrase s = true ↔ ∃ found after, s = found ++ after ∧ IsForm phrase found := by
  -- Phrase and text are gone through side by side, so the text is general in the induction.
  induction phrase generalizing s with
  | nil => exact ⟨fun _ => ⟨[], s, rfl, .nil⟩, fun _ => by rw [startsWithPhrase]⟩
  | cons letter phrase ih =>
    cases s with
    | nil =>
      constructor
      · intro h
        cases h
      · rintro ⟨found, after, hs, hform⟩
        obtain ⟨c, rest, -, -, rfl⟩ := List.forall₂_cons_left_iff.1 hform
        cases hs
    | cons c rest =>
      rw [startsWithPhrase, Bool.and_eq_true, ih]
      constructor
      · rintro ⟨hc, found, after, rfl, hform⟩
        exact ⟨c :: found, after, rfl, .cons hc hform⟩
      · rintro ⟨found, after, hs, hform⟩
        obtain ⟨d, found, hd, hfound, rfl⟩ := List.forall₂_cons_left_iff.1 hform
        obtain ⟨rfl, rfl⟩ := List.cons.inj hs
        exact ⟨hd, found, after, rfl, hfound⟩

/-- More text at the end does not change what a text starts with. -/
theorem startsWithPhrase_append (h : startsWithPhrase phrase s = true) (rest : List Char) :
    startsWithPhrase phrase (s ++ rest) = true := by
  obtain ⟨found, after, rfl, hform⟩ := startsWithPhrase_iff.1 h
  exact startsWithPhrase_iff.2 ⟨found, after ++ rest, List.append_assoc _ _ _, hform⟩

/-- A phrase is mentioned at the start of a text or behind its first character. -/
theorem mentions_cons (c : Char) :
    mentions phrase (c :: s) = (startsWithPhrase phrase (c :: s) || mentions phrase s) := by
  rw [mentions]

/-- A phrase is mentioned if a form of it stands somewhere in the text. -/
theorem mentions_iff :
    mentions phrase s = true ↔
      ∃ before found after, s = before ++ found ++ after ∧ IsForm phrase found := by
  induction s with
  | nil =>
    rw [mentions, Bool.or_false, startsWithPhrase_iff]
    constructor
    · rintro ⟨found, after, hs, hform⟩
      exact ⟨[], found, after, hs, hform⟩
    · rintro ⟨before, found, after, hs, hform⟩
      obtain ⟨hstart, rfl⟩ := List.append_eq_nil_iff.1 hs.symm
      obtain ⟨rfl, rfl⟩ := List.append_eq_nil_iff.1 hstart
      exact ⟨[], [], rfl, hform⟩
  | cons c rest ih =>
    rw [mentions_cons, Bool.or_eq_true, startsWithPhrase_iff, ih]
    constructor
    · rintro (⟨found, after, hs, hform⟩ | ⟨before, found, after, rfl, hform⟩)
      · exact ⟨[], found, after, hs, hform⟩
      · exact ⟨c :: before, found, after, rfl, hform⟩
    -- The form stands at the start exactly if nothing stands before it.
    · rintro ⟨before, found, after, hs, hform⟩
      cases before with
      | nil => exact .inl ⟨found, after, hs, hform⟩
      | cons d before =>
        obtain ⟨rfl, rfl⟩ := List.cons.inj hs
        exact .inr ⟨before, found, after, rfl, hform⟩

/-- What is mentioned in a part of a text is mentioned in the text. -/
theorem mentions_of_part {part : List Char} (hpart : part <:+: s)
    (h : mentions phrase part = true) : mentions phrase s = true := by
  obtain ⟨before, found, after, rfl, hform⟩ := mentions_iff.1 h
  obtain ⟨front, back, rfl⟩ := hpart
  exact mentions_iff.2 ⟨front ++ before, found, after ++ back, by simp, hform⟩

/-- What a text does not mention no part of it mentions. -/
theorem not_mentions_of_part {part : List Char} (hpart : part <:+: s)
    (h : mentions phrase s = false) : mentions phrase part = false := by
  by_contra hmentions
  rw [mentions_of_part hpart (by simpa using hmentions)] at h
  cases h

/-! ## One phrase -/

namespace Cut

variable {pieces : List (List Char)}

theorem flatten_sublist (h : Cut phrase s pieces) : pieces.flatten.Sublist s := by
  induction h with
  | whole => simp
  | around _ _ _ ih =>
    rw [List.flatten_cons, List.append_assoc]
    exact (List.Sublist.refl _).append (ih.trans (List.sublist_append_right _ _))

/-- The first piece is what the text starts with. -/
theorem exists_head (h : Cut phrase s pieces) :
    ∃ piece later, pieces = piece :: later ∧ piece <+: s := by
  cases h with
  | whole => exact ⟨_, [], rfl, List.prefix_rfl⟩
  | around =>
    refine ⟨_, _, rfl, ?_⟩
    rw [List.append_assoc]
    exact List.prefix_append _ _

/-- A character in front of the text belongs to the first piece, if no occurrence starts there. -/
theorem cons {c : Char} {piece : List Char} (h : Cut phrase s (piece :: pieces))
    (hc : startsWithPhrase phrase (c :: s) = false) :
    Cut phrase (c :: s) ((c :: piece) :: pieces) := by
  -- An occurrence at the start of the piece would be one at the start of the text.
  have hpiece : mentions phrase piece = false → mentions phrase (c :: piece) = false := by
    intro hnot
    obtain ⟨_, _, heq, rest, rfl⟩ := h.exists_head
    obtain ⟨rfl, rfl⟩ := List.cons.inj heq
    rw [mentions_cons, hnot, Bool.or_false]
    by_contra hstart
    rw [← List.cons_append, startsWithPhrase_append (by simpa using hstart)] at hc
    cases hc
  cases h with
  | whole hnot => exact .whole (hpiece hnot)
  | around hnot hform hrest => exact .around (hpiece hnot) hform hrest

end Cut

/-- What is kept of a text is the pieces around the occurrences that are taken out. -/
theorem cut_withoutPhrase (hne : phrase ≠ []) (s : List Char) :
    ∃ pieces, Cut phrase s pieces ∧ withoutPhrase phrase s = pieces.flatten := by
  fun_induction withoutPhrase phrase s with
  | case1 =>
    refine ⟨[[]], .whole ?_, rfl⟩
    cases phrase with
    | nil => exact absurd rfl hne
    | cons => rfl
  | case2 c rest hstarts ih =>
    -- An occurrence starts here: the piece in front of it is empty.
    obtain ⟨pieces, hcut, hkept⟩ := ih
    obtain ⟨found, after, hs, hform⟩ := startsWithPhrase_iff.1 hstarts
    have hafter : rest.drop (phrase.length - 1) = after := by
      have hlength := hform.length_eq
      have hpos := List.length_pos_of_ne_nil hne
      calc rest.drop (phrase.length - 1) = (c :: rest).drop (phrase.length - 1 + 1) := rfl
        _ = (found ++ after).drop found.length := by rw [hs, ← hlength, Nat.sub_add_cancel hpos]
        _ = after := List.drop_left
    rw [hafter] at hcut
    refine ⟨[] :: pieces, ?_, by rw [hkept, List.flatten_cons, List.nil_append]⟩
    rw [hs, ← List.nil_append found]
    exact .around (by cases phrase <;> trivial) hform hcut
  | case3 c rest hnot ih =>
    obtain ⟨pieces, hcut, hkept⟩ := ih
    obtain ⟨piece, later, rfl, -⟩ := hcut.exists_head
    exact ⟨(c :: piece) :: later, hcut.cons (by simpa using hnot), by rw [hkept]; rfl⟩

/-- A phrase is taken out of a text, and nothing is put in. -/
theorem withoutPhrase_sublist (hne : phrase ≠ []) (s : List Char) :
    (withoutPhrase phrase s).Sublist s := by
  obtain ⟨pieces, hcut, hkept⟩ := cut_withoutPhrase hne s
  rw [hkept]
  exact hcut.flatten_sublist

/-- A text stays as it is if it does not mention the phrase. -/
theorem withoutPhrase_eq_self_iff (hne : phrase ≠ []) :
    withoutPhrase phrase s = s ↔ mentions phrase s = false := by
  obtain ⟨pieces, hcut, hkept⟩ := cut_withoutPhrase hne s
  rw [hkept]
  cases hcut with
  | whole hnot => simpa using hnot
  | @around piece found rest pieces _ hform hrest =>
    have hfound : found.length = phrase.length := hform.length_eq.symm
    have hpos := List.length_pos_of_ne_nil hne
    constructor
    · intro heq
      -- The text would be shorter by the occurrence that is taken out.
      have hlength := congrArg List.length heq
      have hle := hrest.flatten_sublist.length_le
      simp only [List.flatten_cons, List.length_append] at hlength
      omega
    · intro hnot
      rw [mentions_iff.2 ⟨piece, found, rest, rfl, hform⟩] at hnot
      cases hnot

/-! ## All phrases -/

/-- The text mentions none of the phrases. -/
def IsFree (s : String) : Prop :=
  ∀ phrase ∈ overridePhrases, mentions phrase.toList s.toList = false

/-- Phrases are taken out one after the other, and nothing is put in. -/
theorem foldl_withoutPhrase_sublist {phrases : List String} (hne : ∀ p ∈ phrases, p.toList ≠ [])
    (s : List Char) :
    (phrases.foldl (fun s phrase => withoutPhrase phrase.toList s) s).Sublist s := by
  induction phrases generalizing s with
  | nil => exact List.Sublist.refl s
  | cons phrase phrases ih =>
    obtain ⟨hfirst, hrest⟩ := List.forall_mem_cons.1 hne
    exact (ih hrest _).trans (withoutPhrase_sublist hfirst s)

/-- Taking phrases out leaves a text as it is exactly if it mentions none of them. -/
theorem foldl_withoutPhrase_eq_self_iff {phrases : List String}
    (hne : ∀ p ∈ phrases, p.toList ≠ []) :
    phrases.foldl (fun s phrase => withoutPhrase phrase.toList s) s = s ↔
      ∀ phrase ∈ phrases, mentions phrase.toList s = false := by
  induction phrases with
  | nil => simp
  | cons phrase phrases ih =>
    obtain ⟨hfirst, hrest⟩ := List.forall_mem_cons.1 hne
    rw [List.foldl_cons, List.forall_mem_cons, ← withoutPhrase_eq_self_iff hfirst, ← ih hrest]
    constructor
    · intro h
      -- If nothing is lost in the end, nothing is lost on the way.
      have hlength : s.length ≤ (withoutPhrase phrase.toList s).length := by
        have hle := (foldl_withoutPhrase_sublist hrest (withoutPhrase phrase.toList s)).length_le
        rwa [h] at hle
      have hsame := (withoutPhrase_sublist hfirst s).eq_of_length_le hlength
      rw [hsame] at h
      exact ⟨hsame, h⟩
    · rintro ⟨hsame, h⟩
      rw [hsame, h]

/-- None of the phrases is empty. -/
theorem ne_nil_of_mem_overridePhrases : ∀ phrase ∈ overridePhrases, phrase.toList ≠ [] := by
  decide

/-- Cleaning leaves a text alone if it mentions no phrase and has no blanks at its ends. -/
theorem withoutPhrases_eq_self_iff :
    withoutPhrases s = s ↔
      Text.trim s = s ∧ ∀ phrase ∈ overridePhrases, mentions phrase.toList s = false := by
  rw [← foldl_withoutPhrase_eq_self_iff ne_nil_of_mem_overridePhrases, withoutPhrases]
  have hfold := foldl_withoutPhrase_sublist ne_nil_of_mem_overridePhrases s
  constructor
  · intro h
    -- Neither the phrases nor the blanks can take anything away.
    have hlength := (Text.trim_sublist
      (overridePhrases.foldl (fun s phrase => withoutPhrase phrase.toList s) s)).length_le
    rw [h] at hlength
    have hsame := hfold.eq_of_length_le hlength
    rw [hsame] at h
    exact ⟨h, hsame⟩
  · rintro ⟨htrim, hsame⟩
    rw [hsame, htrim]

theorem withoutPhrases_sublist (s : List Char) : (withoutPhrases s).Sublist s :=
  (Text.trim_sublist _).trans (foldl_withoutPhrase_sublist ne_nil_of_mem_overridePhrases s)

/-! ## Cleaned strings -/

@[simp]
theorem toList_sanitize (text : String) : (sanitize text).toList = withoutPhrases text.toList := by
  simp [sanitize]

/-- A text is left as it is exactly if it has no blanks around it and mentions no phrase. -/
theorem sanitize_eq_self_iff {text : String} :
    sanitize text = text ↔ Text.trim text.toList = text.toList ∧ IsFree text := by
  rw [← String.toList_inj, toList_sanitize, withoutPhrases_eq_self_iff, IsFree]

/-- Cleaning leaves no phrase exactly where a second cleaning has nothing left to do. -/
theorem isFree_sanitize_iff (text : String) :
    IsFree (sanitize text) ↔ sanitize (sanitize text) = sanitize text := by
  rw [sanitize_eq_self_iff, toList_sanitize]
  exact (and_iff_right (Text.trim_trim _)).symm

/-- Finitely many cleanings lead to a text without any phrase. -/
theorem exists_isFree_iterate (text : String) : ∃ n, IsFree (sanitize^[n] text) := by
  have hsublist : ∀ text, (sanitize text).toList.Sublist text.toList := by
    intro text
    rw [toList_sanitize]
    exact withoutPhrases_sublist text.toList
  obtain ⟨n, -, hsame⟩ := Text.exists_iterate_eq_self hsublist text
  exact ⟨n, (sanitize_eq_self_iff.1 hsame).2⟩

/-- A part of a text without phrases has none. -/
theorem IsFree.of_part {text part : String} (h : IsFree text)
    (hpart : part.toList <:+: text.toList) : IsFree part :=
  fun phrase hmem => not_mentions_of_part hpart (h phrase hmem)

end DeckPlan.Guard
