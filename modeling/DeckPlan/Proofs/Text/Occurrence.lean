import DeckPlan.Text.Occurrence
import Mathlib.Data.List.Infix
import Mathlib.Data.List.TakeWhile

/-!
# Where a text occurs and where it is cut

A text occurs in another one if it is a part of it (`occursIn_iff`). It cannot reach across a
character that it does not hold (`infix_append_cons_iff`). The pieces of a text hold no character
that it is cut at (`not_of_mem_splitOnP`), and they change with the text (`splitOnP_map`).

An occurrence is the first one if no character before it can be the first of another one, and it is
the last one if no character behind it can be the last of another one. So `cut?`, `cutLast?` and
`throughLast` find their place from what does not occur on one side of it, whatever stands on the
other side.
-/

namespace DeckPlan.Text

variable {needle before after : List Char} {c : Char}

/-! ## Parts of a text -/

/-- A text occurs in another one if it is a part of it. -/
theorem occursIn_iff {s : List Char} : occursIn needle s = true ↔ needle <:+: s := by
  induction s with
  | nil => simp [occursIn]
  | cons d s ih =>
    rw [occursIn, Bool.or_eq_true, List.isPrefixOf_iff_prefix, List.infix_cons_iff]
    exact or_congr_right ih

/-- What does not hold a character stands on one side of it. -/
theorem infix_append_cons_iff (h : c ∉ needle) :
    needle <:+: before ++ c :: after ↔ needle <:+: before ∨ needle <:+: after := by
  -- A part that starts with the character would hold it.
  have hstart : needle <+: c :: after → needle = [] := by
    intro hprefix
    cases needle with
    | nil => rfl
    | cons d rest =>
      obtain ⟨rfl, -⟩ := List.cons_prefix_cons.1 hprefix
      exact absurd List.mem_cons_self h
  constructor
  · intro hpart
    rcases List.infix_append_iff.1 hpart with hbefore | hafter | ⟨first, last, rfl, hfirst, hlast⟩
    · exact .inl hbefore
    · rcases List.infix_cons_iff.1 hafter with hprefix | hafter
      · rw [hstart hprefix]
        exact .inl List.nil_infix
      · exact .inr hafter
    · -- Nothing of the part is left behind the seam.
      cases last with
      | nil =>
        rw [List.append_nil]
        exact .inl hfirst.isInfix
      | cons d last =>
        obtain ⟨rfl, -⟩ := List.cons_prefix_cons.1 hlast
        exact absurd (List.mem_append_right first List.mem_cons_self) h
  · rintro (hbefore | hafter)
    · exact List.infix_append_of_infix_left hbefore
    · exact List.infix_append_of_infix_right (List.infix_cons hafter)

/-- The pieces of a text hold none of the characters that it is cut at. -/
theorem not_of_mem_splitOnP {p : Char → Bool} {s piece : List Char} (h : piece ∈ s.splitOnP p) :
    ∀ c ∈ piece, p c = false := by
  induction s generalizing piece with
  | nil =>
    rw [List.splitOnP_nil, List.mem_singleton] at h
    simp [h]
  | cons d s ih =>
    rw [List.splitOnP_cons_eq_if_modifyHead] at h
    obtain ⟨first, later, hs⟩ := List.exists_cons_of_ne_nil (List.splitOnP_ne_nil p s)
    rw [hs] at h ih
    split at h
    · -- The text is cut at `d`: an empty piece stands before the pieces of `s`.
      rcases List.mem_cons.1 h with rfl | h
      · exact fun _ hc => nomatch hc
      · exact ih h
    · next hd =>
      -- `d` goes to the front of the first piece of `s`.
      rw [List.modifyHead_cons] at h
      rcases List.mem_cons.1 h with rfl | h
      · exact List.forall_mem_cons.2 ⟨by simpa using hd, ih List.mem_cons_self⟩
      · exact ih (List.mem_cons_of_mem _ h)

/-- A text with other characters is cut where these are, and its pieces have them too. -/
theorem splitOnP_map (f : Char → Char) (p : Char → Bool) (s : List Char) :
    (s.map f).splitOnP p = (s.splitOnP fun c => p (f c)).map (List.map f) := by
  induction s with
  | nil => rfl
  | cons c s ih =>
    rw [List.map_cons, List.splitOnP_cons_eq_if_modifyHead, List.splitOnP_cons_eq_if_modifyHead, ih]
    split
    · rfl
    · -- `c` goes to the front of the first piece, before the change or after it.
      obtain ⟨first, later, hs⟩ :=
        List.exists_cons_of_ne_nil (List.splitOnP_ne_nil (fun c => p (f c)) s)
      rw [hs]
      rfl

/-! ## Cuts -/

/-- A text is cut at the first place where what is looked for can stand. -/
theorem cut?_append (hfirst : needle.head? = some c) (hbefore : c ∉ before) :
    cut? needle (before ++ needle ++ after) = some (before, after) := by
  induction before with
  | nil =>
    have hstart : needle.isPrefixOf? (needle ++ after) = some after :=
      List.isPrefixOf?_eq_some_iff_append_eq.2 rfl
    rw [List.nil_append, cut?.eq_def, hstart]
  | cons d before ih =>
    obtain ⟨hne, hrest⟩ : c ≠ d ∧ c ∉ before := by simpa using hbefore
    -- The needle starts with another character than the text.
    have hstart : needle.isPrefixOf? (d :: (before ++ needle ++ after)) = none := by
      rw [Option.eq_none_iff_forall_ne_some]
      intro rest hrest
      have happend := List.isPrefixOf?_eq_some_iff_append_eq.1 hrest
      have hhead := congrArg List.head? happend
      rw [List.head?_append, hfirst] at hhead
      exact hne (by simpa using hhead)
    rw [List.cons_append, List.cons_append, cut?, hstart]
    simp only [ih hrest, Option.map_some]

/-- A text is cut at the last place where what is looked for can stand. -/
theorem cutLast?_append (hlast : needle.getLast? = some c) (hafter : c ∉ after) :
    cutLast? needle (before ++ needle ++ after) = some (before, after) := by
  have hfirst : needle.reverse.head? = some c := by rw [List.head?_reverse, hlast]
  have hcut : cut? needle.reverse (after.reverse ++ needle.reverse ++ before.reverse) =
      some (after.reverse, before.reverse) := cut?_append hfirst (by simpa using hafter)
  rw [cutLast?, List.reverse_append, List.reverse_append, ← List.append_assoc, hcut]
  simp

/-- Up to the last place of a character goes all that stands before it and the character. -/
theorem throughLast_append (hafter : c ∉ after) :
    throughLast c (before ++ c :: after) = before ++ [c] := by
  have hskip : after.reverse.dropWhile (fun d => d != c) = [] := by
    rw [List.dropWhile_eq_nil_iff]
    intro d hd
    have hne : d ≠ c := fun heq => hafter (heq ▸ List.mem_reverse.1 hd)
    simpa using hne
  rw [throughLast, List.reverse_append, List.reverse_cons, List.append_assoc,
    List.dropWhile_append, hskip]
  simp

end DeckPlan.Text
