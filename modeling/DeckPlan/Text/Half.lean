/-!
# Halves of pairs

JSON writes a character from `U+10000` on as a pair of escapes. An escape may also stand for half
of a pair that has no other half. Such a half is no character, but a text may hold it and passes it
on as one. The last private characters are its code: each of the 2048 halves has one of its own, so
different halves stay different (`half?_ofHalf`). A text that holds a half has no encoding
(`unencodable?`).
-/

namespace DeckPlan.Text

/-- The first half of all. -/
def firstHalf : Nat := 0xD800

/-- How far the code of a half is from the half. -/
def halfOffset : Nat := 0x102000

/-- The character that stands for a half. -/
def ofHalf (unit : Nat) : Char :=
  Char.ofNat (unit + halfOffset)

/-- The half that a character stands for. -/
def half? (c : Char) : Option Nat :=
  if firstHalf + halfOffset ≤ c.toNat then some (c.toNat - halfOffset) else none

/-- Every half is told from its code. -/
theorem half?_ofHalf {unit : Nat} (hfirst : firstHalf ≤ unit) (hlast : unit ≤ 0xDFFF) :
    half? (ofHalf unit) = some unit := by
  have hvalid : (unit + halfOffset).isValidChar := by
    refine .inr ⟨?_, ?_⟩ <;> simp only [firstHalf, halfOffset] at * <;> omega
  have hcode : (ofHalf unit).toNat = unit + halfOffset := by
    rw [ofHalf, Char.ofNat, dif_pos hvalid]
    rfl
  rw [half?, hcode, if_pos (Nat.add_le_add_right hfirst halfOffset), Nat.add_sub_cancel]

/-- Halves that stand next to each other in a text without an encoding. -/
structure UnencodablePart where
  /-- The number of characters before the first of the halves. -/
  start : Nat
  /-- The first of the halves. -/
  first : Nat
  /-- The number of the halves. -/
  count : Nat
  deriving DecidableEq, Repr

/-- The first halves in a text; there are none if the text has an encoding. -/
def unencodable? (text : String) : Option UnencodablePart :=
  let isHalf (c : Char) : Bool := (half? c).isSome
  let (before, rest) := text.toList.span fun c => !isHalf c
  (rest.head?.bind half?).map fun first =>
    { start := before.length, first, count := (rest.takeWhile isHalf).length }

end DeckPlan.Text
