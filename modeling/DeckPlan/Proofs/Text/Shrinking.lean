import Mathlib.Logic.Function.Iterate

/-!
# Repeating a change that only takes characters away

A change that leaves a part of every text makes a text shorter or does nothing to it
(`length_lt_of_sublist`). So it cannot be repeated for ever: it comes to a text that it does not
change, after no more steps than the text has characters (`exists_iterate_eq_self`).
-/

namespace DeckPlan.Text

variable {change : String → String}

/-- A change that only takes characters out makes a text shorter, or leaves it as it is. -/
theorem length_lt_of_sublist {text : String} (h : (change text).toList.Sublist text.toList)
    (hne : change text ≠ text) : (change text).length < text.length := by
  rw [← String.length_toList, ← String.length_toList]
  refine Nat.lt_of_le_of_ne h.length_le fun hlength => hne ?_
  exact String.toList_inj.1 (h.eq_of_length hlength)

/-- A change that only takes characters out comes to rest after at most as many steps as there are
characters. -/
theorem exists_iterate_eq_self (h : ∀ text, (change text).toList.Sublist text.toList)
    (text : String) : ∃ n ≤ text.length, change (change^[n] text) = change^[n] text := by
  by_cases hsame : change text = text
  · exact ⟨0, Nat.zero_le _, hsame⟩
  · -- The first step has made the text shorter, so there are fewer steps left.
    have hlt := length_lt_of_sublist (h text) hsame
    obtain ⟨n, hn, hfixed⟩ := exists_iterate_eq_self h (change text)
    exact ⟨n + 1, Nat.lt_of_le_of_lt hn hlt, hfixed⟩
termination_by text.length

end DeckPlan.Text
