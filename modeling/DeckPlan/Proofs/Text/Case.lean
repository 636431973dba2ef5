import DeckPlan.Text.Case

/-!
# The case of texts that are put together

Only a capital sigma looks at what stands around it, and it does not look past a character that
parts words (`PartsWords`), such as a space. So a text that is put together from two with such a
character between has the lower-case forms of the two with that character between
(`lower_append_cons`, `lower_append_space`). No character is lost (`lower_eq_nil_iff`).
-/

namespace DeckPlan.Text

/-- The character has no case and is not skipped in the search for one that has. -/
def PartsWords (c : Char) : Prop :=
  Case.isIgnorable c = false ∧ Case.isCased c = false

variable {c : Char}

/-- What stands behind a character that parts words does not count. -/
theorem nextIsCased_append (h : PartsWords c) (s rest : List Char) :
    Case.nextIsCased (s ++ c :: rest) = Case.nextIsCased s := by
  obtain ⟨hkept, huncased⟩ := h
  have hskip : (c :: rest).dropWhile Case.isIgnorable = c :: rest :=
    List.dropWhile_cons_of_neg (by simp [hkept])
  rw [Case.nextIsCased, Case.nextIsCased, List.dropWhile_append, hskip]
  cases hs : s.dropWhile Case.isIgnorable with
  | nil => simp [huncased]
  | cons d s => rfl

/-- The part of a text before a character that parts words does not depend on what follows. -/
theorem lowerAfter_append (h : PartsWords c) (before s rest : List Char) :
    lowerAfter before (s ++ c :: rest) =
      lowerAfter before s ++ lowerAfter (s.reverse ++ before) (c :: rest) := by
  induction s generalizing before with
  | nil => rfl
  | cons d s ih =>
    rw [List.cons_append, lowerAfter, lowerAfter, ih, endsWord, endsWord, nextIsCased_append h,
      List.reverse_cons, List.append_assoc, List.append_assoc]
    rfl

/-- The part of a text behind a character that parts words does not depend on what precedes. -/
theorem lowerAfter_behind (h : PartsWords c) (near far s : List Char) :
    lowerAfter (near ++ c :: far) s = lowerAfter near s := by
  induction s generalizing near with
  | nil => rfl
  | cons d s ih =>
    have hlater : lowerAfter (d :: (near ++ c :: far)) s = lowerAfter (d :: near) s := ih (d :: near)
    rw [lowerAfter, lowerAfter, endsWord, endsWord, nextIsCased_append h, hlater]

/-- A character that parts words parts the text for the change to small letters. -/
theorem lower_append_cons (h : PartsWords c) (s rest : List Char) :
    lower (s ++ c :: rest) = lower s ++ lowerChar c ++ lower rest := by
  have hsigma : c ≠ 'Σ' := by
    rintro rfl
    exact absurd h.2 (by decide)
  have hrest : lowerAfter (c :: (s.reverse ++ [])) rest = lower rest :=
    lowerAfter_behind h [] _ rest
  rw [lower, lowerAfter_append h, lowerAfter, if_neg hsigma, hrest, List.append_assoc]
  rfl

/-- A space parts words. -/
theorem partsWords_space : PartsWords ' ' := by
  constructor <;> decide +kernel

/-- Texts with a space between have their lower-case forms with a space between. -/
theorem lower_append_space (s rest : List Char) :
    lower (s ++ ' ' :: rest) = lower s ++ ' ' :: lower rest := by
  have hspace : lowerChar ' ' = [' '] := by decide +kernel
  rw [lower_append_cons partsWords_space, hspace, List.append_assoc]
  rfl

/-- No character vanishes when it becomes small. -/
theorem lowerChar_ne_nil (c : Char) : lowerChar c ≠ [] := by
  have hexpansions : ∀ entry ∈ Case.lowerExpansions, entry.2 ≠ [] := by decide
  rw [lowerChar, Case.mapChar]
  split
  · next codes hlookup =>
    obtain ⟨before, after, htable, -⟩ := List.lookup_eq_some_iff.1 hlookup
    have hcodes : codes ≠ [] := hexpansions (c.toNat, codes) (by simp [htable])
    simpa using hcodes
  · split <;> exact List.cons_ne_nil _ _

/-- Only the empty text has an empty lower-case form. -/
theorem lower_eq_nil_iff {s : List Char} : lower s = [] ↔ s = [] := by
  cases s with
  | nil => exact iff_of_true rfl rfl
  | cons c rest =>
    refine iff_of_false (fun h => ?_) (List.cons_ne_nil c rest)
    rw [lower, lowerAfter, List.append_eq_nil_iff] at h
    split at h
    · exact List.cons_ne_nil _ _ h.1
    · exact lowerChar_ne_nil c h.1

end DeckPlan.Text
