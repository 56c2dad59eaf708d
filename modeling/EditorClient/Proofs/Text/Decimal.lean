/-
# Numbers survive their digits

A number that was written in digits is read back as the same number, with its sign
and up to both ends of the range. Neither digits nor signs are blanks, so what is
cut away around a number is never a part of it.
-/

import EditorClient.Text.Blank
import EditorClient.Text.Decimal

namespace EditorClient

namespace Decimal

theorem toList_ofNat (n : Nat) : (ofNat n).toList = Nat.toDigits 10 n :=
  Nat.toList_repr

theorem value_toDigits (n : Nat) : value (Nat.toDigits 10 n) = n :=
  Nat.ofDigitChars_ten_toDigits

theorem isDigit_of_mem_toDigits {c : Char} {n : Nat} (there : c ∈ Nat.toDigits 10 n) :
    isDigit c = true := by
  have digit : c.isDigit := Nat.isDigit_of_mem_toDigits (by decide) (by decide) there
  rw [Char.isDigit, Bool.and_eq_true, decide_eq_true_eq, decide_eq_true_eq] at digit
  rw [isDigit, Bool.and_eq_true, decide_eq_true_eq, decide_eq_true_eq]
  exact digit

theorem natural?_toDigits (n : Nat) : natural? (Nat.toDigits 10 n) = some n := by
  have digits : (Nat.toDigits 10 n).all isDigit :=
    List.all_eq_true.mpr fun _ there => isDigit_of_mem_toDigits there
  rw [natural?, if_pos ⟨Nat.toDigits_ne_nil, digits⟩, ofDigits_eq, value_toDigits]

/-- What begins with a digit is read without a sign. -/
theorem signed?_of_isDigit (read? : List Char → Option Nat) {c : Char} {rest : List Char}
    (digit : isDigit c = true) : signed? read? (c :: rest) = (read? (c :: rest)).map Int.ofNat := by
  unfold signed?
  split
  case h_1 plus => exact absurd (List.head_eq_of_cons_eq plus ▸ digit) (by decide)
  case h_2 minus => exact absurd (List.head_eq_of_cons_eq minus ▸ digit) (by decide)
  case h_3 => rfl

theorem toList_ofInt (n : Int) : (ofInt n).toList =
    if n < 0 then '-' :: Nat.toDigits 10 n.natAbs else Nat.toDigits 10 n.natAbs := by
  unfold ofInt
  split
  case isTrue => rw [String.toList_append, toList_ofNat]; rfl
  case isFalse => exact toList_ofNat _

theorem integer?_ofInt (n : Int) : integer? (ofInt n).toList = some n := by
  rw [toList_ofInt, integer?]
  split
  case isTrue negative =>
      have size : -(n.natAbs : Int) = n := by omega
      rw [signed?, natural?_toDigits]
      exact congrArg some size
  case isFalse natural =>
      have size : (n.natAbs : Int) = n := by omega
      obtain ⟨c, rest, shape⟩ := List.exists_cons_of_ne_nil
        (Nat.toDigits_ne_nil : Nat.toDigits 10 n.natAbs ≠ [])
      have digit : isDigit c = true := isDigit_of_mem_toDigits (shape ▸ List.mem_cons_self)
      rw [shape, signed?_of_isDigit _ digit, ← shape, natural?_toDigits]
      exact congrArg some size

/-- A 32-bit number is read back from its digits. -/
theorem int32?_ofInt (n : Int32) : int32? (ofInt n.toInt).toList = some n := by
  have inRange : Int32.minValue.toInt ≤ n.toInt ∧ n.toInt ≤ Int32.maxValue.toInt :=
    ⟨n.minValue_le_toInt, n.toInt_le⟩
  rw [int32?, integer?_ofInt]
  change (if _ then some (Int32.ofInt n.toInt) else none) = _
  rw [if_pos inRange, Int32.ofInt_toInt]

end Decimal

namespace Blank

/-- Where no character is a blank, nothing is removed. -/
theorem trim_of_not_isBlank {cs : List Char} (solid : ∀ c ∈ cs, isBlank c = false) :
    trim cs = cs := by
  have kept (cs : List Char) (solid : ∀ c ∈ cs, isBlank c = false) : cs.dropWhile isBlank = cs := by
    cases cs with
    | nil => rfl
    | cons c rest => rw [List.dropWhile_cons, solid c List.mem_cons_self]; rfl
  rw [trim, kept cs solid, kept cs.reverse fun c there => solid c (List.mem_reverse.mp there),
    List.reverse_reverse]

theorem isBlank_of_isDigit {c : Char} (digit : Decimal.isDigit c = true) : isBlank c = false := by
  simp only [Decimal.isDigit, Bool.and_eq_true, decide_eq_true_eq] at digit
  simp [isBlank, ranges]
  omega

/-- No part of a number in digits is a blank. -/
theorem isBlank_of_mem_ofInt {c : Char} {n : Int} (there : c ∈ (Decimal.ofInt n).toList) :
    isBlank c = false := by
  have digits (found : c ∈ Nat.toDigits 10 n.natAbs) : isBlank c = false :=
    isBlank_of_isDigit (Decimal.isDigit_of_mem_toDigits found)
  rw [Decimal.toList_ofInt] at there
  split at there
  case isTrue =>
      rcases List.mem_cons.mp there with rfl | later
      · decide
      · exact digits later
  case isFalse => exact digits there

end Blank

end EditorClient
