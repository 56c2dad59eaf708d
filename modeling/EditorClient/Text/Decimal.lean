/-
# Decimal numbers in text

Reading whole numbers that are written in ASCII digits. Leading zeros are
allowed and there is no limit to the value: a caller that needs a bounded number
checks the range afterwards, so that nothing wraps around.
-/

namespace EditorClient.Decimal

/-- Whether a character is a digit of ASCII. -/
def isDigit (c : Char) : Bool := 48 ≤ c.toNat && c.toNat ≤ 57

/-- What a digit stands for. -/
def digit (c : Char) : Nat := c.toNat - 48

/-- The number that a sequence of digits denotes; the empty one denotes zero. -/
def value (digits : List Char) : Nat :=
  digits.foldl (fun n c => 10 * n + digit c) 0

theorem foldl_digit (n : Nat) (digits : List Char) :
    digits.foldl (fun n c => 10 * n + digit c) n =
      n * Nat.pow 10 digits.length + value digits := by
  induction digits generalizing n with
  | nil => exact (Nat.mul_one n).symm
  | cons c rest ih =>
    have shift : Nat.pow 10 (rest.length + 1) = Nat.pow 10 rest.length * 10 := rfl
    rw [value, List.foldl_cons, List.foldl_cons, ih, ih, List.length_cons, shift]
    grind

/-- Digits that are followed by others count for a power of ten as much. -/
theorem value_append (high low : List Char) :
    value (high ++ low) = value high * Nat.pow 10 low.length + value low := by
  have split : value (high ++ low) = low.foldl (fun n c => 10 * n + digit c) (value high) :=
    List.foldl_append
  rw [split, foldl_digit]

/-- The number that a sequence of digits denotes, put together from its two
halves, from theirs and so on. Long sequences are read much faster in this way
than digit by digit. -/
def valueInHalves : (depth : Nat) → List Char → Nat
  | 0, digits => value digits
  | depth + 1, digits =>
    let half := digits.length / 2
    let low := digits.drop half
    valueInHalves depth (digits.take half) * Nat.pow 10 low.length + valueInHalves depth low

/-- It does not matter how often a sequence is halved. -/
theorem valueInHalves_eq (depth : Nat) (digits : List Char) :
    valueInHalves depth digits = value digits := by
  induction depth generalizing digits with
  | zero => rfl
  | succ depth ih =>
    rw [valueInHalves, ih, ih, ← value_append, List.take_append_drop]

/-- The number that a sequence of digits denotes, short or long. -/
def ofDigits (digits : List Char) : Nat :=
  valueInHalves (digits.length.log2 - 5) digits

theorem ofDigits_eq (digits : List Char) : ofDigits digits = value digits :=
  valueInHalves_eq _ digits

/-- The number written as a non-empty sequence of digits and nothing else. -/
def natural? (text : List Char) : Option Nat :=
  if text ≠ [] ∧ text.all isDigit then some (ofDigits text) else none

/-- A number after an optional sign, where `read?` says what may stand behind the
sign. -/
def signed? (read? : List Char → Option Nat) : List Char → Option Int
  | '+' :: digits => (read? digits).map Int.ofNat
  | '-' :: digits => (read? digits).map fun n => -(n : Int)
  | digits => (read? digits).map Int.ofNat

/-- The number written as digits after an optional sign. -/
def integer? (text : List Char) : Option Int := signed? natural? text

/-- The 32-bit number written as digits after an optional sign; `none` also
where the number does not fit. -/
def int32? (text : List Char) : Option Int32 := do
  let n ← integer? text
  if Int32.minValue.toInt ≤ n ∧ n ≤ Int32.maxValue.toInt then some (Int32.ofInt n) else none

/-- A number in digits, the shortest way. -/
def ofNat (n : Nat) : String := toString n

/-- A signed number in digits, with a sign only if it is negative. -/
def ofInt (n : Int) : String :=
  if n < 0 then "-" ++ ofNat n.natAbs else ofNat n.natAbs

end EditorClient.Decimal
