import DeckPlan.Number.Binary64

/-!
# Decimal texts of numbers

A finite floating-point number is written with the fewest significant digits that read back as
the number, and of those with the digits nearest to it (`shortest`). The digits are written in
positional notation from `10 ^ -4` up to below `10 ^ 16` and with an exponent of at least two
digits otherwise (`decimalText`).
-/

namespace DeckPlan

namespace Binary64

/-- The number of decimal digits before the point of `num / den`; zero or less if the quotient is
below one tenth or less. The quotient is positive and not below the smallest positive number. -/
def decimalMagnitude (num den : Nat) : Int :=
  ((Nat.toDigits 10 (num * power 10 330 / den)).length : Int) - 330

/-- The decimal numbers of at most `count` digits on the two sides of `num / den` that read back
as `x`: their digits and their exponent. The nearer comes first, in a tie the even one. -/
def candidates (x : Binary64) (num den count : Nat) : List (Nat × Int) :=
  let exponent := decimalMagnitude num den - count
  -- One of the two powers is one: the quotient is scaled without a fraction.
  let num := num * power 10 (-exponent)
  let den := den * power 10 exponent
  let below := num / den
  let nearest := nearestQuotient num den
  let other := if nearest = below then below + 1 else below
  [nearest, other].filterMap fun digits =>
    if ofDecimal false digits exponent = x then some (digits, exponent) else none

/-- The fewest digits that read back as `significand * 2 ^ exponent`, and the power of ten that
goes with the last of them. Seventeen digits are always enough. -/
def shortest (significand : Nat) (exponent : Int) : Nat × Int :=
  let x := Binary64.finite false significand exponent
  let num := significand * power 2 exponent
  let den := power 2 (-exponent)
  match (List.range' 1 17).findSome? fun count => (candidates x num den count).head? with
  | some found => found
  | none => (0, 0)

/-- The digits without the zeros at their end, and the power of ten of the last one left. -/
def withoutZeros (digits : List Char) (exponent : Int) : List Char × Int :=
  let kept := (digits.reverse.dropWhile (· == '0')).reverse
  (kept, exponent + (digits.length - kept.length : Nat))

/-- A whole number behind its sign, in at least two digits. -/
def exponentText (e : Int) : List Char :=
  let digits := Nat.toDigits 10 e.natAbs
  (if e < 0 then '-' else '+') :: (if digits.length < 2 then '0' :: digits else digits)

/-- The number with the given digits, the last of which counts `10 ^ exponent`. -/
def digitsText (digits : List Char) (exponent : Int) : List Char :=
  let point : Int := digits.length + exponent
  if -3 ≤ point ∧ point ≤ 16 then
    if point ≤ 0 then '0' :: '.' :: (List.replicate (-point).toNat '0' ++ digits)
    else if exponent < 0 then
      digits.take point.toNat ++ '.' :: digits.drop point.toNat
    else digits ++ List.replicate exponent.toNat '0' ++ ['.', '0']
  else
    match digits with
    | [] => ['0']
    | [d] => d :: 'e' :: exponentText (point - 1)
    | d :: more => d :: '.' :: more ++ 'e' :: exponentText (point - 1)

/-- The decimal text of a number, which reads back as the number. -/
def decimalText : Binary64 → String
  | .nan => "nan"
  | .infinity negative => if negative then "-inf" else "inf"
  | .finite negative significand exponent =>
    let text :=
      if significand = 0 then ['0', '.', '0']
      else
        let (digits, e) := shortest significand exponent
        let (digits, e) := withoutZeros (Nat.toDigits 10 digits) e
        digitsText digits e
    String.ofList (if negative then '-' :: text else text)

end Binary64

end DeckPlan
