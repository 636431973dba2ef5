import DeckPlan.Number.Binary64

/-!
# Numbers

A number as data brings it: a whole number of any size or a floating-point number. The two stay
apart, so `1` and `1.0` are different numbers.
-/

namespace DeckPlan

/-- A whole number or a floating-point number. -/
inductive Number where
  | int (value : Int)
  | float (value : Binary64)
  deriving DecidableEq, Repr

namespace Number

/-- Whether the number is neither an infinity nor `nan`. -/
def isFinite : Number → Bool
  | .int _ => true
  | .float value => value.isFinite

/-- Whether the number is below zero. -/
def isNegative : Number → Bool
  | .int value => value < 0
  | .float value => value.isNegative

/-- Whether the number is zero or below. -/
def isNonpositive : Number → Bool
  | .int value => value ≤ 0
  | .float value => value.isNegative || value.isZero

end Number

end DeckPlan
