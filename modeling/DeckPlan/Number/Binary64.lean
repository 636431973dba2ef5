/-!
# Binary floating-point numbers

Binary floating-point numbers of 64 bits as exact values: a finite number is a sign, a
significand below `2 ^ 53` and an exponent from `-1074` to `971`. Every operation computes the
exact result and rounds it once, to the nearest number and in a tie to an even significand
(`ofRatio`).

Among the equal representations of a number the one with the greatest significand is used, so
equal numbers are equal values, but for the two zeros, which differ in their sign.
-/

namespace DeckPlan

/-- A binary floating-point number of 64 bits. -/
inductive Binary64 where
  /-- Not a number. -/
  | nan
  /-- An infinity. -/
  | infinity (negative : Bool)
  /-- The number `significand * 2 ^ exponent`, negated if `negative`. -/
  | finite (negative : Bool) (significand : Nat) (exponent : Int)
  deriving DecidableEq, Repr

namespace Binary64

/-- The exponent of the smallest positive number. -/
def minExponent : Int := -1074

/-- The exponent of the greatest finite number. -/
def maxExponent : Int := 971

/-- Zero, with a sign. -/
def zero (negative : Bool) : Binary64 :=
  .finite negative 0 minExponent

/-- `base ^ e`, or one for a negative exponent. -/
def power (base : Nat) (e : Int) : Nat :=
  base.pow e.toNat

/-- The whole number nearest to `num / den`, in a tie the even one. -/
def nearestQuotient (num den : Nat) : Nat :=
  let quotient := num / den
  let twice := 2 * (num % den)
  if twice < den then quotient
  else if twice = den then quotient + quotient % 2
  else quotient + 1

/-- The greatest `e` with `2 ^ e ≤ num / den`, for positive `num` and `den`. -/
def binaryMagnitude (num den : Nat) : Int :=
  -- The difference of the logarithms is the greatest such `e`, or one more.
  let guess : Int := (Nat.log2 num : Int) - Nat.log2 den
  if den * power 2 guess ≤ num * power 2 (-guess) then guess else guess - 1

/-- The number nearest to `num / den`, negated if `negative`; the denominator is positive. -/
def ofRatio (negative : Bool) (num den : Nat) : Binary64 :=
  if num = 0 then zero negative
  else
    let exponent := max (binaryMagnitude num den - 52) minExponent
    let significand := nearestQuotient (num * power 2 (-exponent)) (den * power 2 exponent)
    -- To round up may lead to the next power of two.
    let (significand, exponent) :=
      if significand = power 2 53 then (power 2 52, exponent + 1) else (significand, exponent)
    if exponent > maxExponent then .infinity negative
    else .finite negative significand exponent

/-- The number nearest to `value * 2 ^ exponent`, with the given sign if the value is zero. -/
def ofScaled (negativeZero : Bool) (value : Int) (exponent : Int) : Binary64 :=
  ofRatio (if value = 0 then negativeZero else value < 0)
    (value.natAbs * power 2 exponent) (power 2 (-exponent))

/-- The number nearest to a natural number. -/
def ofNat (n : Nat) : Binary64 :=
  ofRatio false n 1

/-- The number nearest to `digits * 10 ^ exponent`, negated if `negative`. Far outside the range
of the format the power is not computed: the answer there is an infinity or a zero. -/
def ofDecimal (negative : Bool) (digits : Nat) (exponent : Int) : Binary64 :=
  let magnitude := (Nat.toDigits 10 digits).length + exponent
  if digits = 0 || magnitude < -330 then zero negative
  else if magnitude > 310 then .infinity negative
  else ofRatio negative (digits * power 10 exponent) (power 10 (-exponent))

/-- Whether the number is neither an infinity nor `nan`. -/
def isFinite : Binary64 → Bool
  | .finite .. => true
  | _ => false

/-- Whether the number is one of the two zeros. -/
def isZero : Binary64 → Bool
  | .finite _ significand _ => significand == 0
  | _ => false

/-- Whether the number is below zero. -/
def isNegative : Binary64 → Bool
  | .nan => false
  | .infinity negative => negative
  | .finite negative significand _ => negative && significand != 0

/-- The number's significand with its sign. -/
def signed (negative : Bool) (significand : Nat) : Int :=
  if negative then -significand else significand

/-- The difference of two numbers. -/
def sub : Binary64 → Binary64 → Binary64
  | .nan, _ => .nan
  | _, .nan => .nan
  | .infinity s, .infinity t => if s = t then .nan else .infinity s
  | .infinity s, .finite .. => .infinity s
  | .finite .., .infinity t => .infinity !t
  | .finite s m e, .finite t n f =>
    let low := min e f
    let left := signed s m * power 2 (e - low)
    let right := signed t n * power 2 (f - low)
    ofScaled (s && !t) (left - right) low

/-- The product with a whole number other than zero. -/
def times (k : Nat) : Binary64 → Binary64
  | .nan => .nan
  | .infinity s => .infinity s
  | .finite s m e => ofScaled s (signed s m * k) e

/-- The whole part of a finite number. -/
def truncate? : Binary64 → Option Int
  | .finite s m e => some (signed s (m * power 2 e / power 2 (-e)))
  | _ => none

instance : Sub Binary64 := ⟨sub⟩

end Binary64

end DeckPlan
