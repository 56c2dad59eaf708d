/-
# Durations

How long the client waits for the server is given in seconds, perhaps with a
fraction or a power of ten. The text is read as the nearest double, and the
double is converted to whole nanoseconds: exactly, then rounded to the nearest
with ties to the even one.

The digits of an exponent are taken in until they make `2 ^ 16` or more; those
that follow are passed over, so `e655360` says the same as `e65536`.

A text that denotes zero or less, or a double of `2 ^ 64` seconds or more, is no
duration. The test for zero is on the double, so a text that denotes a tiny
number above zero is read as a duration of no nanoseconds at all.
-/

import EditorClient.Number.Binary64
import EditorClient.Text.Blank
import EditorClient.Text.Decimal

namespace EditorClient

/-- A span of time in whole nanoseconds. -/
structure Duration where
  nanoseconds : Nat
  deriving DecidableEq, Repr

/-- A number in scientific form: `digits * 10 ^ exponent`. -/
structure Scientific where
  digits : Nat
  exponent : Int
  deriving DecidableEq, Repr

namespace Scientific

/-- Where the digits of an exponent cease to count. -/
def exponentBound : Nat := 65536

/-- The number that the digits of an exponent denote. Once it has reached the
bound, the digits that are left no longer count. -/
def exponentValue (digits : List Char) : Nat :=
  digits.foldl (fun n c => if n < exponentBound then 10 * n + Decimal.digit c else n) 0

/-- The digits of an exponent, without its sign. There is at least one. -/
def magnitude? (text : List Char) : Option Nat :=
  if text ≠ [] ∧ text.all Decimal.isDigit then some (exponentValue text) else none

/-- The power of ten after the mark `e`, or 0 where there is no mark. -/
def exponent? : List Char → Option Int
  | [] => some 0
  | c :: rest => if c = 'e' ∨ c = 'E' then Decimal.signed? magnitude? rest else none

/-- A number without a sign: digits, perhaps with a point before, among or after
them, and perhaps an exponent. There is at least one digit before the exponent. -/
def read? (text : List Char) : Option Scientific := do
  let whole := text.takeWhile Decimal.isDigit
  let rest := text.dropWhile Decimal.isDigit
  let (fraction, rest) :=
    match rest with
    | '.' :: rest => (rest.takeWhile Decimal.isDigit, rest.dropWhile Decimal.isDigit)
    | rest => ([], rest)
  if whole = [] ∧ fraction = [] then none
  else
    let exponent ← exponent? rest
    some ⟨Decimal.ofDigits (whole ++ fraction), exponent - fraction.length⟩

end Scientific

namespace Duration

/-- The nanoseconds in a second. -/
def perSecond : Nat := 1000000000

/-- The whole seconds of a duration. -/
def seconds (d : Duration) : Nat := d.nanoseconds / perSecond

/-- The nanoseconds of a duration beyond its whole seconds. -/
def subsecond (d : Duration) : Nat := d.nanoseconds % perSecond

/-- The duration of a number of seconds, if it is positive and below `2 ^ 64`. -/
def ofSeconds? (x : Binary64) : Option Duration :=
  let tooLong := 0 ≤ x.exponent ∧ UInt64.size ≤ x.significand <<< x.exponent.natAbs
  if x.significand = 0 ∨ tooLong then none else some ⟨x.roundTimes perSecond⟩

/-- The duration that a text gives in seconds. Blanks around the number and a
plus sign before it are allowed. -/
def read? (text : String) : Option Duration := do
  let number ←
    match Blank.trim text.toList with
    | '+' :: number => Scientific.read? number
    | number => Scientific.read? number
  let x ← Binary64.ofDecimal? number.digits number.exponent
  ofSeconds? x

example : Scientific.exponent? "e655359".toList = some 655359 := by decide
example : Scientific.exponent? "e-700001".toList = some (-70000) := by decide
example : read? "1e-10" = some ⟨0⟩ := by decide +kernel
example : read? " 2.5e-9" = some ⟨3⟩ := by decide +kernel
example : read? "1.9e19" = none := by decide +kernel

end Duration

end EditorClient
