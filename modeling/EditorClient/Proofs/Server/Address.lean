/-
# Which texts are addresses

A number without leading zeros has one form, the one in which it is printed. So the four
numbers of a host, which are read strictly, are read from their printed form and from
nothing else, and the text of a host is the only one that is read as that host: printing
and reading lose nothing, and no other spelling names a host.
-/

import EditorClient.Proofs.Text.Numeral
import EditorClient.Server.Address

namespace EditorClient

namespace Decimal

variable {c : Char} {text : List Char} {n : Nat}

theorem digit_lt (decimal : isDigit c = true) : digit c < 10 := by
  simp only [isDigit, Bool.and_eq_true, decide_eq_true_eq] at decimal
  rw [digit]
  omega

/-- A digit is the character of what it stands for. -/
theorem digitChar_digit (decimal : isDigit c = true) : (digit c).digitChar = c := by
  apply Char.toNat_inj.mp
  rw [Nat.toNat_digitChar_of_lt_ten (digit_lt decimal), digit]
  simp only [isDigit, Bool.and_eq_true, decide_eq_true_eq] at decimal
  omega

/-- Printed numbers have no leading zero. -/
theorem toDigits_of_head (zero : (Nat.toDigits 10 n).head? = some '0') :
    Nat.toDigits 10 n = ['0'] := by
  induction n using Nat.strongRecOn with
  | ind n ih =>
      by_cases small : n < 10
      · rw [Nat.toDigits_of_lt_base small] at zero ⊢
        exact congrArg (fun c => [c]) (Option.some.inj zero)
      · rw [Nat.toDigits_of_base_le (by decide) (by omega)] at zero
        rw [List.head?_append_of_ne_nil _ Nat.toDigits_ne_nil] at zero
        have none : n / 10 = 0 := by
          have back := value_toDigits (n / 10)
          rw [ih (n / 10) (by omega) zero] at back
          exact back.symm
        omega

/-- Digits without leading zeros are how their value is printed. The induction is on the
digits from the last one on, as printing goes. -/
theorem toDigits_value (digits : Digits text) (shortest : text.head? = some '0' → text = ['0']) :
    Nat.toDigits 10 (value text) = text := by
  induction text using List.reverseRecOn with
  | nil => exact absurd rfl digits.1
  | append_singleton init c ih =>
      have last : isDigit c = true := digits.2 c List.mem_concat_self
      have low : value [c] = digit c := Nat.zero_add _
      by_cases single : init = []
      · rw [single, List.nil_append, low, Nat.toDigits_of_lt_base (digit_lt last),
          digitChar_digit last]
      · have noZero : init.head? ≠ some '0' := by
          intro zero
          have long := congrArg List.length
            (shortest ((List.head?_append_of_ne_nil init single).trans zero))
          rw [List.length_append, List.length_singleton, List.length_singleton] at long
          exact single (List.length_eq_zero_iff.mp (Nat.succ.inj long))
        have high : Nat.toDigits 10 (value init) = init :=
          ih ⟨single, fun c there => digits.2 c (List.mem_append_left _ there)⟩
            fun zero => absurd zero noZero
        have positive : 0 < value init := by
          apply Nat.pos_of_ne_zero
          intro none
          rw [none] at high
          exact noZero (high ▸ rfl)
        have whole : value (init ++ [c]) = 10 * value init + digit c := by
          rw [value_append, low, Nat.mul_comm]
          rfl
        calc Nat.toDigits 10 (value (init ++ [c]))
            = Nat.toDigits 10 (value init) ++ Nat.toDigits 10 (digit c) := by
              rw [whole, Nat.toDigits_append_toDigits (by decide) positive (digit_lt last)]
          _ = init ++ [c] := by
              rw [high, Nat.toDigits_of_lt_base (digit_lt last), digitChar_digit last]

end Decimal

namespace Ipv4

open Pieces Decimal

variable {text : List Char}

/-- One of the four numbers is read from its printed form alone. -/
theorem octet?_eq_some_iff {n : UInt8} :
    octet? text = some n ↔ text = Nat.toDigits 10 n.toNat := by
  constructor
  · intro read
    rw [octet?] at read
    split at read
    case isTrue strict =>
        obtain ⟨number, natural, read⟩ := Option.bind_eq_some_iff.mp read
        obtain ⟨digits, rfl⟩ := natural?_eq_some_iff.mp natural
        split at read
        case isTrue small =>
            have same : n.toNat = value text := by
              rw [← Option.some.inj read, Nat.toUInt8, UInt8.toNat_ofNat']
              omega
            rw [same, toDigits_value digits strict.2]
        case isFalse => nomatch read
    case isFalse => nomatch read
  · rintro rfl
    have small : n.toNat ≤ 255 := Nat.le_of_lt_succ n.toNat_lt
    have short : (Nat.toDigits 10 n.toNat).length ≤ 3 :=
      (Nat.length_toDigits_le_iff (by decide) (by decide)).mpr (by omega)
    rw [octet?, if_pos ⟨short, toDigits_of_head⟩, natural?_toDigits]
    show (if n.toNat ≤ 255 then some n.toNat.toUInt8 else none) = some n
    rw [if_pos small, Nat.toUInt8, UInt8.ofNat_toNat]

/-- The four numbers with points between them. -/
theorem toList_toText (ip : Ipv4) : ip.toText.toList =
    Nat.toDigits 10 ip.a.toNat ++ '.' :: (Nat.toDigits 10 ip.b.toNat ++ '.' ::
      (Nat.toDigits 10 ip.c.toNat ++ '.' :: Nat.toDigits 10 ip.d.toNat)) := by
  simp [toText, toList_ofNat]

theorem point_not_mem_toDigits (n : Nat) : '.' ∉ Nat.toDigits 10 n := by
  intro there
  exact absurd (isDigit_of_mem_toDigits there) (by decide)

/-- The text of a host has nothing but digits and points. -/
theorem isDigit_or_point {ip : Ipv4} {c : Char} (there : c ∈ ip.toText.toList) :
    isDigit c = true ∨ c = '.' := by
  rw [toList_toText] at there
  simp only [List.mem_append, List.mem_cons] at there
  rcases there with found | point | found | point | found | point | found
  case inr.inl | inr.inr.inr.inl | inr.inr.inr.inr.inr.inl => exact .inr point
  all_goals exact .inl (isDigit_of_mem_toDigits found)

/-- A text is read as a host exactly if it is how the host is printed. -/
theorem read?_eq_some_iff {ip : Ipv4} : read? text = some ip ↔ text = ip.toText.toList := by
  rw [toList_toText]
  constructor
  · intro read
    rw [read?] at read
    split at read
    case h_1 a b c d pieces =>
        have whole := flatMap_dropLast_append_getLastD '.' text
        rw [pieces] at whole
        obtain ⟨first, here, read⟩ := Option.bind_eq_some_iff.mp read
        obtain ⟨second, here', read⟩ := Option.bind_eq_some_iff.mp read
        obtain ⟨third, here'', read⟩ := Option.bind_eq_some_iff.mp read
        obtain ⟨fourth, here''', read⟩ := Option.bind_eq_some_iff.mp read
        cases read
        rw [← whole, octet?_eq_some_iff.mp here, octet?_eq_some_iff.mp here',
          octet?_eq_some_iff.mp here'', octet?_eq_some_iff.mp here''']
        simp
    case h_2 => nomatch read
  · intro written
    have each (n : UInt8) : octet? (Nat.toDigits 10 n.toNat) = some n :=
      octet?_eq_some_iff.mpr rfl
    have pieces : split '.' text = [Nat.toDigits 10 ip.a.toNat, Nat.toDigits 10 ip.b.toNat,
        Nat.toDigits 10 ip.c.toNat, Nat.toDigits 10 ip.d.toNat] := by
      rw [written, split_cons_of_not_mem (point_not_mem_toDigits _),
        split_cons_of_not_mem (point_not_mem_toDigits _),
        split_cons_of_not_mem (point_not_mem_toDigits _), split_of_not_mem (point_not_mem_toDigits _)]
    rw [read?, pieces]
    simp [each]

end Ipv4

end EditorClient
