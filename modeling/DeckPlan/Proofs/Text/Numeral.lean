import DeckPlan.Text.Digit

/-!
# Decimal numerals

The text of a natural number is made of decimal digits (`isDigit_of_mem_numeral`), so behind a
character that is no digit the number can be told from the text (`numeral_append_inj`).
-/

namespace DeckPlan.Text

theorem toList_toString (n : Nat) : (toString n).toList = Nat.toDigits 10 n := by
  rw [Nat.toString_eq_ofList_toDigits, String.toList_ofList]

/-- The digits of ASCII are digits. -/
theorem isDigit_of_ascii {c : Char} (h : c.isDigit = true) : isDigit c = true := by
  -- The ten ASCII digits are the first range of the table.
  refine inRanges_iff.2 ⟨(0x30, 0x39), List.mem_cons_self, ?_⟩
  rw [Char.isDigit, Bool.and_eq_true, decide_eq_true_iff, decide_eq_true_iff] at h
  exact ⟨h.1, h.2⟩

/-- Numerals hold digits only. -/
theorem isDigit_of_mem_numeral {n : Nat} {c : Char} (h : c ∈ (toString n).toList) :
    isDigit c = true := by
  rw [toList_toString] at h
  exact isDigit_of_ascii (Nat.isDigit_of_mem_toDigits (by decide) (by decide) h)

theorem numeral_ne_nil (n : Nat) : (toString n).toList ≠ [] := by
  rw [toList_toString]
  exact Nat.toDigits_ne_nil

/-- Different numbers have different numerals. -/
theorem numeral_inj {m n : Nat} (h : (toString m).toList = (toString n).toList) : m = n := by
  rw [toList_toString, toList_toString] at h
  calc m = Nat.ofDigitChars 10 (Nat.toDigits 10 m) 0 := Nat.ofDigitChars_ten_toDigits.symm
    _ = Nat.ofDigitChars 10 (Nat.toDigits 10 n) 0 := by rw [h]
    _ = n := Nat.ofDigitChars_ten_toDigits

/-- The digits before a character that is none, and with them the number, can be told. -/
theorem numeral_append_inj {m n : Nat} {c : Char} {s t : List Char} (hc : isDigit c = false)
    (h : (toString m).toList ++ c :: s = (toString n).toList ++ c :: t) : m = n := by
  have htake : ∀ (k : Nat) (rest : List Char),
      ((toString k).toList ++ c :: rest).takeWhile isDigit = (toString k).toList := by
    intro k rest
    rw [List.takeWhile_append_of_pos fun d hd => isDigit_of_mem_numeral hd,
      List.takeWhile_cons_of_neg (by simp [hc]), List.append_nil]
  have hdigits := congrArg (List.takeWhile isDigit) h
  rw [htake, htake] at hdigits
  exact numeral_inj hdigits

end DeckPlan.Text
