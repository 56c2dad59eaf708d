/-
# Which texts are numbers

A text is read as a number exactly if it is a numeral: digits, at least one, after an
optional sign. A 32-bit number is read only if it is the value of the numeral, so a
numeral that does not fit is none and never another number.

Where a number is looked for among blanks, it is the first word: blanks may stand before
it, and a space or nothing but blanks after it.
-/

import EditorClient.Proofs.Lines
import EditorClient.Proofs.Text.Decimal

namespace EditorClient

namespace Decimal

/-- Digits, at least one. -/
def Digits (text : List Char) : Prop := text ≠ [] ∧ ∀ c ∈ text, isDigit c = true

/-- How a number may be written. -/
inductive Numeral : List Char → Int → Prop
  | unsigned {digits : List Char} (written : Digits digits) : Numeral digits (value digits)
  | positive {digits : List Char} (written : Digits digits) :
      Numeral ('+' :: digits) (value digits)
  | negative {digits : List Char} (written : Digits digits) :
      Numeral ('-' :: digits) (-value digits)

variable {text : List Char}

theorem natural?_eq_some_iff {n : Nat} :
    natural? text = some n ↔ Digits text ∧ n = value text := by
  rw [natural?, ofDigits_eq]
  split
  case isTrue digits =>
      rw [Option.some_inj, eq_comm]
      exact (and_iff_right ⟨digits.1, List.all_eq_true.mp digits.2⟩).symm
  case isFalse other =>
      constructor
      · intro read
        contradiction
      · rintro ⟨digits, -⟩
        exact absurd ⟨digits.1, List.all_eq_true.mpr digits.2⟩ other

theorem integer?_eq_some_iff {n : Int} : integer? text = some n ↔ Numeral text n := by
  constructor
  · intro read
    rw [integer?] at read
    unfold signed? at read
    split at read
    case h_1 =>
        obtain ⟨size, found, rfl⟩ := Option.map_eq_some_iff.mp read
        obtain ⟨digits, rfl⟩ := natural?_eq_some_iff.mp found
        exact .positive digits
    case h_2 =>
        obtain ⟨size, found, rfl⟩ := Option.map_eq_some_iff.mp read
        obtain ⟨natural, number, same⟩ := Option.bind_eq_some_iff.mp found
        cases same
        obtain ⟨digits, rfl⟩ := natural?_eq_some_iff.mp number
        exact .negative digits
    case h_3 =>
        obtain ⟨size, found, rfl⟩ := Option.map_eq_some_iff.mp read
        obtain ⟨digits, rfl⟩ := natural?_eq_some_iff.mp found
        exact .unsigned digits
  · intro numeral
    cases numeral with
    | unsigned written =>
        obtain ⟨c, rest, rfl⟩ := List.exists_cons_of_ne_nil written.1
        have digit := written.2 c List.mem_cons_self
        rw [integer?, signed?_of_isDigit _ digit, natural?_eq_some_iff.mpr ⟨written, rfl⟩]
        rfl
    | positive written =>
        rw [integer?, signed?, natural?_eq_some_iff.mpr ⟨written, rfl⟩]
        rfl
    | negative written =>
        rw [integer?, signed?, natural?_eq_some_iff.mpr ⟨written, rfl⟩]
        rfl

/-- A numeral outside the range is not read, and so no number is read as another one. -/
theorem int32?_eq_some_iff {n : Int32} : int32? text = some n ↔ Numeral text n.toInt := by
  constructor
  · intro read
    obtain ⟨size, found, read⟩ := Option.bind_eq_some_iff.mp read
    split at read
    case isTrue inRange =>
        cases read
        rw [Int32.toInt_ofInt_of_le inRange.1 (Int.lt_of_le_of_lt inRange.2 (by decide))]
        exact integer?_eq_some_iff.mp found
    case isFalse => nomatch read
  · intro numeral
    have inRange : Int32.minValue.toInt ≤ n.toInt ∧ n.toInt ≤ Int32.maxValue.toInt :=
      ⟨n.minValue_le_toInt, n.toInt_le⟩
    rw [int32?, integer?_eq_some_iff.mpr numeral]
    change (if _ then some (Int32.ofInt n.toInt) else none) = _
    rw [if_pos inRange, Int32.ofInt_toInt]

end Decimal

namespace Blank

/-- The first word of a text, not counting blanks before it. -/
def FirstWord (text word : List Char) : Prop :=
  ∃ lead rest, text = lead ++ (word ++ rest) ∧ (∀ c ∈ lead, isBlank c = true) ∧
    (rest.head? = some ' ' ∨ ∀ c ∈ rest, isBlank c = true)

variable {text word : List Char}

/-- What is cut away at the ends is blank. -/
theorem exists_trim (text : List Char) :
    ∃ lead trail, text = lead ++ (trim text ++ trail) ∧ (∀ c ∈ lead, isBlank c = true) ∧
      ∀ c ∈ trail, isBlank c = true := by
  have front := List.takeWhile_append_dropWhile (p := isBlank) (l := text)
  have back := List.takeWhile_append_dropWhile (p := isBlank)
    (l := (text.dropWhile isBlank).reverse)
  refine ⟨text.takeWhile isBlank, ((text.dropWhile isBlank).reverse.takeWhile isBlank).reverse,
    ?_, fun c there => List.mem_takeWhile_imp there, fun c there =>
      List.mem_takeWhile_imp (List.mem_reverse.mp there)⟩
  rw [trim, ← List.reverse_append, back, List.reverse_reverse, front]

theorem dropWhile_of_solid (nonempty : word ≠ []) (solid : ∀ c ∈ word, isBlank c = false)
    (rest : List Char) : (word ++ rest).dropWhile isBlank = word ++ rest := by
  obtain ⟨c, others, rfl⟩ := List.exists_cons_of_ne_nil nonempty
  apply List.dropWhile_cons_of_neg
  rw [solid c List.mem_cons_self]
  exact Bool.false_ne_true

/-- Before a word blanks are cut away, and behind it the blanks at the end. -/
theorem trim_of_word {lead : List Char} (nonempty : word ≠ [])
    (solid : ∀ c ∈ word, isBlank c = false) (before : ∀ c ∈ lead, isBlank c = true)
    (rest : List Char) : trim (lead ++ (word ++ rest)) = word ++ rest.rdropWhile isBlank := by
  have back : word.reverse.dropWhile isBlank = word.reverse := by
    have kept := dropWhile_of_solid (List.reverse_ne_nil_iff.mpr nonempty)
      (fun c there => solid c (List.mem_reverse.mp there)) []
    rwa [List.append_nil] at kept
  rw [trim, List.dropWhile_append_of_pos before, dropWhile_of_solid nonempty solid,
    List.reverse_append, List.dropWhile_append, back, List.rdropWhile]
  split
  case isTrue none =>
      rw [List.isEmpty_iff.mp none, List.reverse_reverse, List.reverse_nil, List.append_nil]
  case isFalse => rw [List.reverse_append, List.reverse_reverse]

/-- The first word of what is left when the blanks at the ends are cut away. -/
theorem firstWord_iff (nonempty : word ≠ []) (solid : ∀ c ∈ word, isBlank c = false) :
    (Pieces.cut ' ' (trim text)).1 = word ↔ FirstWord text word := by
  constructor
  · rintro rfl
    obtain ⟨lead, trail, whole, before, after⟩ := exists_trim text
    by_cases divided : ' ' ∈ trim text
    · obtain ⟨first, more, shape, absent⟩ := List.eq_append_cons_of_mem divided
      rw [shape, Pieces.cut_cons_of_not_mem absent]
      refine ⟨lead, ' ' :: (more ++ trail), ?_, before, .inl rfl⟩
      rw [whole, shape, List.append_assoc, List.cons_append]
    · rw [Pieces.cut_of_not_mem divided]
      exact ⟨lead, trail, whole, before, .inr after⟩
  · rintro ⟨lead, rest, rfl, before, after⟩
    have absent : ' ' ∉ word := by
      intro there
      exact absurd (solid ' ' there) (by decide)
    rw [trim_of_word nonempty solid before]
    -- What is kept of the rest is a beginning of it, and so nothing or a space and more.
    cases kept : rest.rdropWhile isBlank with
    | nil => rw [List.append_nil, Pieces.cut_of_not_mem absent]
    | cons c more =>
        have begins := List.rdropWhile_prefix isBlank rest
        rw [kept] at begins
        have isSpace : c = ' ' := by
          rcases after with space | blank
          · obtain ⟨others, rfl⟩ := begins
            exact Option.some.inj space
          · rw [List.rdropWhile_eq_nil_iff.mpr blank] at kept
            nomatch kept
        rw [isSpace, Pieces.cut_cons_of_not_mem absent]

end Blank

end EditorClient
