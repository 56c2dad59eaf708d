/-
# Text survives its bytes

A text that was written in UTF-8 is read back as the same text: each character is
recognised from its own bytes, whatever follows them. So different texts have
different bytes, and a byte below 128 stands for itself and is part of no other
character.
-/

import EditorClient.Text.Utf8
import Mathlib.Logic.Function.Basic

namespace EditorClient.Utf8

/-! ## The bytes of one character -/

theorem toNat_ofNat_byte {n : Nat} (small : n < 256) : (UInt8.ofNat n).toNat = n := by
  simp [Nat.mod_eq_of_lt small]

theorem chunksFrom_cons (p : Option Partial) (b : UInt8) (rest : Bytes) :
    chunksFrom p (b :: rest) = (step p b).1 ++ chunksFrom (step p b).2 rest := by
  cases p <;> rfl

theorem chunksFrom_lead {b : UInt8} {p : Partial} (opens : lead b = .opens p) (rest : Bytes) :
    chunksFrom none (b :: rest) = chunksFrom (some p) rest := by
  simp [chunksFrom_cons, step, begin, opens]

section

variable {seen : Bytes} {low high bits n : Nat}

theorem chunksFrom_more {b : UInt8} {later : Nat} (byte : b.toNat = n + 128)
    (above : low ≤ n + 128) (below : n + 128 ≤ high) (rest : Bytes) :
    chunksFrom (some ⟨seen, later + 1, low, high, bits⟩) (b :: rest) =
      chunksFrom (some ⟨seen ++ [b], later, 0x80, 0xBF, bits * 64 + n⟩) rest := by
  simp [chunksFrom_cons, step, byte, above, below]

theorem chunksFrom_last {b : UInt8} (byte : b.toNat = n + 128)
    (above : low ≤ n + 128) (below : n + 128 ≤ high) (rest : Bytes) :
    chunksFrom (some ⟨seen, 0, low, high, bits⟩) (b :: rest) =
      .char (Char.ofNat (bits * 64 + n)) :: chunksFrom none rest := by
  simp [chunksFrom_cons, step, byte, above, below]

theorem lead_one (ascii : n ≤ 127) : lead (UInt8.ofNat n) = .whole (Char.ofNat n) := by
  have byte := toNat_ofNat_byte (n := n) (by omega)
  simp only [lead, byte]
  rw [if_pos (by omega)]

theorem lead_two (least : 127 < n) (most : n ≤ 2047) :
    lead (UInt8.ofNat (n / 64 % 32 + 192)) =
      .opens ⟨[UInt8.ofNat (n / 64 % 32 + 192)], 0, 0x80, 0xBF, n / 64⟩ := by
  have byte := toNat_ofNat_byte (n := n / 64 % 32 + 192) (by omega)
  have bits : n / 64 % 32 + 192 - 192 = n / 64 := by omega
  simp only [lead, byte]
  rw [if_neg (by omega), if_neg (by omega), if_pos (by omega), bits]

/-- The range for the second byte excludes overlong forms and surrogates, and so never
the second byte of a character. -/
theorem lead_three (least : 2047 < n) (most : n ≤ 65535) (scalar : n < 0xD800 ∨ 0xDFFF < n) :
    ∃ low high, lead (UInt8.ofNat (n / 4096 % 16 + 224)) =
        .opens ⟨[UInt8.ofNat (n / 4096 % 16 + 224)], 1, low, high, n / 4096⟩ ∧
      low ≤ n / 64 % 64 + 128 ∧ n / 64 % 64 + 128 ≤ high := by
  have byte := toNat_ofNat_byte (n := n / 4096 % 16 + 224) (by omega)
  have bits : n / 4096 % 16 + 224 - 224 = n / 4096 := by omega
  simp only [lead, byte]
  rw [if_neg (by omega), if_neg (by omega), if_neg (by omega), bits]
  split
  · exact ⟨_, _, by rw [show n / 4096 = 0 by omega], by omega, by omega⟩
  · split
    · exact ⟨_, _, by rw [show n / 4096 = 0xD by omega], by omega, by omega⟩
    · rw [if_pos (by omega)]
      exact ⟨_, _, rfl, by omega, by omega⟩

theorem lead_four (least : 65535 < n) (most : n < 0x110000) :
    ∃ low high, lead (UInt8.ofNat (n / 262144 % 8 + 240)) =
        .opens ⟨[UInt8.ofNat (n / 262144 % 8 + 240)], 2, low, high, n / 262144⟩ ∧
      low ≤ n / 4096 % 64 + 128 ∧ n / 4096 % 64 + 128 ≤ high := by
  have byte := toNat_ofNat_byte (n := n / 262144 % 8 + 240) (by omega)
  have bits : n / 262144 % 8 + 240 - 240 = n / 262144 := by omega
  simp only [lead, byte]
  rw [if_neg (by omega), if_neg (by omega), if_neg (by omega), if_neg (by omega), if_neg (by omega),
    if_neg (by omega), bits]
  split
  · exact ⟨_, _, by rw [show n / 262144 = 0 by omega], by omega, by omega⟩
  · split
    · exact ⟨_, _, rfl, by omega, by omega⟩
    · rw [if_pos (by omega)]
      exact ⟨_, _, by rw [show n / 262144 = 4 by omega], by omega, by omega⟩

end

/-- The bytes of a character are read as that character, whatever follows them. The
cases are the lengths of its form. -/
theorem chunksFrom_utf8EncodeChar (c : Char) (rest : Bytes) :
    chunksFrom none (String.utf8EncodeChar c ++ rest) = .char c :: chunksFrom none rest := by
  obtain ⟨n, number⟩ : ∃ n, n = c.val.toNat := ⟨_, rfl⟩
  have scalar : n < 0xD800 ∨ 0xDFFF < n ∧ n < 0x110000 := number ▸ c.valid
  have back : Char.ofNat n = c := number ▸ Char.ofNat_toNat c
  have tail (k : Nat) : (UInt8.ofNat (k % 64 + 128)).toNat = k % 64 + 128 :=
    toNat_ofNat_byte (by omega)
  simp only [String.utf8EncodeChar, ← number]
  split
  case isTrue one =>
      simp [chunksFrom_cons, step, begin, lead_one one, back]
  case isFalse =>
      split
      case isTrue two =>
          have whole : n / 64 * 64 + n % 64 = n := by omega
          simp only [List.cons_append, List.nil_append]
          rw [chunksFrom_lead (lead_two (by omega) two),
            chunksFrom_last (tail n) (by omega) (by omega), whole, back]
      case isFalse =>
          split
          case isTrue three =>
              obtain ⟨low, high, opens, above, below⟩ :=
                lead_three (n := n) (by omega) three (by omega)
              have whole : (n / 4096 * 64 + n / 64 % 64) * 64 + n % 64 = n := by omega
              simp only [List.cons_append, List.nil_append]
              rw [chunksFrom_lead opens, chunksFrom_more (tail (n / 64)) above below,
                chunksFrom_last (tail n) (by omega) (by omega), whole, back]
          case isFalse =>
              obtain ⟨low, high, opens, above, below⟩ :=
                lead_four (n := n) (by omega) (by omega)
              have whole :
                  ((n / 262144 * 64 + n / 4096 % 64) * 64 + n / 64 % 64) * 64 + n % 64 = n := by
                omega
              simp only [List.cons_append, List.nil_append]
              rw [chunksFrom_lead opens, chunksFrom_more (tail (n / 4096)) above below,
                chunksFrom_more (tail (n / 64)) (by omega) (by omega),
                chunksFrom_last (tail n) (by omega) (by omega), whole, back]

theorem toNat_ofNat_ascii {n : Nat} (ascii : n < 128) : (Char.ofNat n).toNat = n := by
  have valid : n.isValidChar := .inl (by omega)
  rw [Char.ofNat, dif_pos valid]
  rfl

/-- A byte of ASCII occurs only in the form of its own character: every byte of a longer
form is 128 or more. -/
theorem mem_utf8EncodeChar {b : UInt8} (ascii : b.toNat < 128) (c : Char) :
    b ∈ String.utf8EncodeChar c ↔ c.toNat = b.toNat := by
  have bound : c.val.toNat < 0xD800 ∨ 0xDFFF < c.val.toNat ∧ c.val.toNat < 0x110000 := c.valid
  have same (n : Nat) (small : n < 256) : b = UInt8.ofNat n ↔ b.toNat = n := by
    rw [← UInt8.toNat_inj, toNat_ofNat_byte small]
  change _ ↔ c.val.toNat = b.toNat
  simp only [String.utf8EncodeChar]
  split
  case isTrue one =>
      rw [List.mem_singleton, same _ (by omega)]
      exact eq_comm
  case isFalse more =>
      split
      case isTrue =>
          simp only [List.mem_cons, List.not_mem_nil, or_false]
          rw [same _ (by omega), same _ (by omega)]
          omega
      case isFalse =>
          split
          case isTrue =>
              simp only [List.mem_cons, List.not_mem_nil, or_false]
              rw [same _ (by omega), same _ (by omega), same _ (by omega)]
              omega
          case isFalse =>
              simp only [List.mem_cons, List.not_mem_nil, or_false]
              rw [same _ (by omega), same _ (by omega), same _ (by omega), same _ (by omega)]
              omega

/-! ## The bytes of a text -/

/-- A text is read back from its bytes character by character. -/
theorem chunks_ofText (text : String) :
    chunks (Bytes.ofText text) = text.toList.map Chunk.char := by
  rw [chunks, Bytes.ofText]
  induction text.toList with
  | nil => rfl
  | cons c rest ih => rw [List.flatMap_cons, chunksFrom_utf8EncodeChar, ih, List.map_cons]

@[simp]
theorem lossy_ofText (text : String) : lossy (Bytes.ofText text) = text := by
  have same : Chunk.lossy ∘ Chunk.char = id := rfl
  rw [lossy, chunks_ofText, List.map_map, same, List.map_id, String.ofList_toList]

@[simp]
theorem strict?_ofText (text : String) : strict? (Bytes.ofText text) = some text := by
  have each (cs : List Char) : (cs.map Chunk.char).mapM Chunk.strict? = some cs := by
    induction cs with
    | nil => rfl
    | cons c rest ih =>
        rw [List.map_cons, List.mapM_cons, ih]
        rfl
  rw [strict?, chunks_ofText, each, Option.map_some, String.ofList_toList]

/-- Different texts have different bytes. -/
theorem ofText_injective : Function.Injective Bytes.ofText := by
  intro a b same
  have read := congrArg lossy same
  rwa [lossy_ofText, lossy_ofText] at read

/-- A byte of ASCII is among the bytes of a text exactly if its character is in the
text. -/
theorem mem_ofText {b : UInt8} (ascii : b.toNat < 128) (text : String) :
    b ∈ Bytes.ofText text ↔ Char.ofNat b.toNat ∈ text.toList := by
  rw [Bytes.ofText, List.mem_flatMap]
  constructor
  · rintro ⟨c, there, found⟩
    have same : c.toNat = b.toNat := (mem_utf8EncodeChar ascii c).mp found
    rwa [← same, Char.ofNat_toNat]
  · intro there
    exact ⟨_, there, (mem_utf8EncodeChar ascii _).mpr (toNat_ofNat_ascii ascii)⟩

end EditorClient.Utf8
