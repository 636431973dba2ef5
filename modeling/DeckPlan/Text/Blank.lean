import DeckPlan.Text.CharRange

/-!
# Blank characters

White space of Unicode together with the four ASCII separators U+001C to U+001F.

* `trim` takes the blanks off both ends of a text.
* `trimOff` takes off the characters of any kind, and of what it leaves neither the first nor the
  last character is of that kind (`head?_trimOff`, `getLast?_trimOff`).
* `isBlankText` holds of the texts that `trim` empties.
-/

namespace DeckPlan.Text

/-- Code point ranges of the blank characters. -/
def blankRanges : List (Nat × Nat) :=
  [(0x0009, 0x000D), (0x001C, 0x0020), (0x0085, 0x0085), (0x00A0, 0x00A0), (0x1680, 0x1680),
   (0x2000, 0x200A), (0x2028, 0x2029), (0x202F, 0x202F), (0x205F, 0x205F), (0x3000, 0x3000)]

/-- Whether a character is blank. -/
def isBlank (c : Char) : Bool :=
  inRanges blankRanges c

/-- The text without the unwanted characters at its two ends. -/
def trimOff (unwanted : Char → Bool) (s : List Char) : List Char :=
  ((s.dropWhile unwanted).reverse.dropWhile unwanted).reverse

/-- The text without the blanks at its two ends. -/
def trim (s : List Char) : List Char :=
  trimOff isBlank s

/-- The text without one line break at its end. -/
def withoutFinalBreak (s : List Char) : List Char :=
  if s.getLast? = some '\n' then s.dropLast else s

/-- A string without the blanks at its two ends. -/
def trimmed (s : String) : String :=
  String.ofList (trim s.toList)

/-- Whether a string holds nothing but blanks. -/
def isBlankText (s : String) : Bool :=
  s.toList.all isBlank

@[simp]
theorem toList_trimmed (s : String) : (trimmed s).toList = trim s.toList := by
  simp [trimmed]

/-- A text that is trimmed does not end in what was trimmed off. -/
theorem getLast?_trimOff {unwanted : Char → Bool} {s : List Char} {c : Char}
    (h : (trimOff unwanted s).getLast? = some c) : unwanted c = false := by
  rw [trimOff, List.getLast?_reverse] at h
  have := List.head?_dropWhile_not unwanted (s.dropWhile unwanted).reverse
  simpa [h] using this

/-- A text that is trimmed does not start with what was trimmed off. -/
theorem head?_trimOff {unwanted : Char → Bool} {s : List Char} {c : Char}
    (h : (trimOff unwanted s).head? = some c) : unwanted c = false := by
  -- What is left at the end is the start of what is left after the first cut.
  have kept : trimOff unwanted s <+: s.dropWhile unwanted := by
    rw [trimOff, ← List.reverse_suffix, List.reverse_reverse]
    exact List.dropWhile_suffix unwanted
  obtain ⟨rest, hrest⟩ := kept
  have head : (s.dropWhile unwanted).head? = some c := by
    rw [← hrest, List.head?_append, h]
    rfl
  have := List.head?_dropWhile_not unwanted s
  simpa [head] using this

end DeckPlan.Text
