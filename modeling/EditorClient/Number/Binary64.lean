/-
# The nearest double

A number that is written in decimal is read as the double nearest to it, and
only that double counts afterwards. This module finds it by exact arithmetic on
natural numbers.

A positive double is `significand * 2 ^ exponent` with a significand below
`2 ^ 53` and an exponent from `-1074` to `971`. The exponent is chosen from the
size of the number, and the significand is then the number in units of that
power of two, rounded to the nearest integer with ties to the even one.
-/

namespace EditorClient

/-- The integer nearest to `num / den`; a tie goes to the even neighbour. -/
def roundDiv (num den : Nat) : Nat :=
  let quotient := num / den
  let twice := 2 * (num % den)
  if twice < den ∨ (twice = den ∧ quotient % 2 = 0) then quotient else quotient + 1

/-- The fraction `num / den` times `2 ^ k`, as a numerator and a denominator. -/
def scaleFraction (num den : Nat) (k : Int) : Nat × Nat :=
  if k < 0 then (num, den <<< k.natAbs) else (num <<< k.natAbs, den)

/-- A finite double that is not negative. -/
structure Binary64 where
  significand : Nat
  exponent : Int
  deriving DecidableEq, Repr

namespace Binary64

/-- The exponent of the least doubles, and of the grid on which they all lie. -/
def minExponent : Int := -1074

/-- The exponent of the greatest doubles. -/
def maxExponent : Int := 971

/-- The bound `2 ^ 53` on significands. -/
def significandBound : Nat := 9007199254740992

/-- The greatest `k` with `2 ^ k ≤ num / den`, for positive `num` and `den`. -/
def floorLog2 (num den : Nat) : Int :=
  let k : Int := (num.log2 : Int) - den.log2
  let scaled := scaleFraction num den (-k)
  if scaled.2 ≤ scaled.1 then k else k - 1

/-- The double nearest to `num / den`, or `none` if that is an infinity. -/
def nearest? (num den : Nat) : Option Binary64 :=
  if num = 0 then some ⟨0, minExponent⟩
  else
    let exponent := max minExponent (floorLog2 num den - 52)
    let scaled := scaleFraction num den (-exponent)
    let significand := roundDiv scaled.1 scaled.2
    let fits := exponent < maxExponent ∨ (exponent = maxExponent ∧ significand < significandBound)
    if fits then some ⟨significand, exponent⟩ else none

/-- The double nearest to `digits * 10 ^ exponent`, or `none` if that is an
infinity. Exponents far outside the range of doubles are settled first, so that
no power is computed that is much longer than the number itself. -/
def ofDecimal? (digits : Nat) (exponent : Int) : Option Binary64 :=
  if digits = 0 then some ⟨0, minExponent⟩
  else if 0 ≤ exponent then
    if exponent > 310 then none else nearest? (digits * Nat.pow 10 exponent.natAbs) 1
  else if 3 * exponent.natAbs > digits.log2 + 1100 then some ⟨0, minExponent⟩
  else nearest? digits (Nat.pow 10 exponent.natAbs)

/-- The integer nearest to a double times `factor`; a tie goes to the even
neighbour. -/
def roundTimes (x : Binary64) (factor : Nat) : Nat :=
  let scaled := scaleFraction (x.significand * factor) 1 x.exponent
  roundDiv scaled.1 scaled.2

example : ofDecimal? 1 (-1) = some ⟨7205759403792794, -56⟩ := by decide
example : ofDecimal? 2 (-324) = some ⟨0, -1074⟩ := by decide +kernel
example : ofDecimal? 3 (-324) = some ⟨1, -1074⟩ := by decide +kernel

end Binary64

end EditorClient
