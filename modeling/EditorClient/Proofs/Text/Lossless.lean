/-
# Reading text loses no byte

Every byte of a sequence is in exactly one chunk of the reading, and a chunk that is a
character consists of the bytes of that character. So bytes that are accepted as text are
the bytes of the text that is read from them, and of no other.

A character that has been begun is sound if every way in which it can go on ends in a
character that is written with the bytes seen so far and those that follow. The ranges
for the next byte are what makes the characters that a lead byte begins sound: they
exclude overlong forms, surrogates and numbers past the last character.
-/

import EditorClient.Proofs.Text.Utf8
import Mathlib.Tactic.SplitIfs

namespace EditorClient.Utf8

/-- The bytes that a chunk was read from. -/
def Chunk.bytes : Chunk → Bytes
  | .char c => String.utf8EncodeChar c
  | .illFormed bytes => bytes

/-- Whatever bytes complete a character, it is written with those seen and these. -/
def SoundFrom : (later : Nat) → (seen : Bytes) → (low high bits : Nat) → Prop
  | 0, seen, low, high, bits => ∀ b : UInt8, low ≤ b.toNat → b.toNat ≤ high →
      String.utf8EncodeChar (Char.ofNat (bits * 64 + (b.toNat - 0x80))) = seen ++ [b]
  | later + 1, seen, low, high, bits => ∀ b : UInt8, low ≤ b.toNat → b.toNat ≤ high →
      SoundFrom later (seen ++ [b]) 0x80 0xBF (bits * 64 + (b.toNat - 0x80))

/-- A character that has been begun can only become one with the bytes that were seen. -/
def Partial.Sound (p : Partial) : Prop := SoundFrom p.later p.seen p.low p.high p.bits

/-! ## Lead bytes -/

section

variable {n : Nat}

theorem val_ofNat (scalar : n < 0xD800 ∨ 0xDFFF < n ∧ n < 0x110000) :
    (Char.ofNat n).val.toNat = n := by
  have valid : n.isValidChar := scalar
  rw [Char.ofNat, dif_pos valid]
  rfl

theorem encode_one (most : n ≤ 127) :
    String.utf8EncodeChar (Char.ofNat n) = [UInt8.ofNat n] := by
  simp only [String.utf8EncodeChar, val_ofNat (n := n) (by omega)]
  rw [if_pos most]

theorem encode_two (least : 127 < n) (most : n ≤ 2047) :
    String.utf8EncodeChar (Char.ofNat n) =
      [UInt8.ofNat (n / 64 % 32 + 192), UInt8.ofNat (n % 64 + 128)] := by
  simp only [String.utf8EncodeChar, val_ofNat (n := n) (by omega)]
  rw [if_neg (by omega), if_pos most]

theorem encode_three (least : 2047 < n) (most : n ≤ 65535) (scalar : n < 0xD800 ∨ 0xDFFF < n) :
    String.utf8EncodeChar (Char.ofNat n) =
      [UInt8.ofNat (n / 4096 % 16 + 224), UInt8.ofNat (n / 64 % 64 + 128),
        UInt8.ofNat (n % 64 + 128)] := by
  simp only [String.utf8EncodeChar, val_ofNat (n := n) (by omega)]
  rw [if_neg (by omega), if_neg (by omega), if_pos most]

theorem encode_four (least : 65535 < n) (most : n < 0x110000) :
    String.utf8EncodeChar (Char.ofNat n) =
      [UInt8.ofNat (n / 262144 % 8 + 240), UInt8.ofNat (n / 4096 % 64 + 128),
        UInt8.ofNat (n / 64 % 64 + 128), UInt8.ofNat (n % 64 + 128)] := by
  simp only [String.utf8EncodeChar, val_ofNat (n := n) (by omega)]
  rw [if_neg (by omega), if_neg (by omega), if_neg (by omega)]

end

theorem ofNat_eq_of_toNat {b : UInt8} {n : Nat} (same : n = b.toNat) : UInt8.ofNat n = b := by
  rw [same, UInt8.ofNat_toNat]

/-- A byte that is a whole character is how the character is written. -/
theorem encode_of_whole {b : UInt8} {c : Char} (whole : lead b = .whole c) :
    String.utf8EncodeChar c = [b] := by
  revert whole
  fun_cases lead b with
  | case1 _ ascii =>
      rintro ⟨⟩
      rw [encode_one (Nat.le_of_lt_succ ascii), UInt8.ofNat_toNat]
  | _ =>
      intro whole
      cases whole

/-- A lead byte of a form with two bytes. -/
theorem sound_two {b : UInt8} {low high bits : Nat} (inside : 0x80 ≤ low ∧ high ≤ 0xBF)
    (value : b.toNat = bits + 0xC0) (least : 2 ≤ bits) (most : bits < 0x20) :
    SoundFrom 0 [b] low high bits := by
  intro c above below
  rw [encode_two (by omega) (by omega), ofNat_eq_of_toNat (b := b) (by omega),
    ofNat_eq_of_toNat (b := c) (by omega)]
  rfl

/-- A lead byte of a form with three bytes, where the range for the second byte leaves only
characters. -/
theorem sound_three {b : UInt8} {low high bits : Nat} (inside : 0x80 ≤ low ∧ high ≤ 0xBF)
    (value : b.toNat = bits + 0xE0) (most : bits < 0x10)
    (least : 0x20 ≤ bits * 64 + (low - 0x80))
    (scalar : bits * 64 + (high - 0x80) < 0x360 ∨ 0x37F < bits * 64 + (low - 0x80)) :
    SoundFrom 1 [b] low high bits := by
  intro c above below d above' below'
  rw [encode_three (by omega) (by omega) (by omega), ofNat_eq_of_toNat (b := b) (by omega),
    ofNat_eq_of_toNat (b := c) (by omega), ofNat_eq_of_toNat (b := d) (by omega)]
  rfl

/-- A lead byte of a form with four bytes. -/
theorem sound_four {b : UInt8} {low high bits : Nat} (inside : 0x80 ≤ low ∧ high ≤ 0xBF)
    (value : b.toNat = bits + 0xF0) (least : 0x10 ≤ bits * 64 + (low - 0x80))
    (most : bits * 64 + (high - 0x80) < 0x110) :
    SoundFrom 2 [b] low high bits := by
  intro c above below d above' below' e above'' below''
  rw [encode_four (by omega) (by omega), ofNat_eq_of_toNat (b := b) (by omega),
    ofNat_eq_of_toNat (b := c) (by omega), ofNat_eq_of_toNat (b := d) (by omega),
    ofNat_eq_of_toNat (b := e) (by omega)]
  rfl

/-- What a lead byte begins is sound. The cases are the ranges of lead bytes. -/
theorem sound_of_opens {b : UInt8} {p : Partial} (opens : lead b = .opens p) :
    p.seen = [b] ∧ p.Sound := by
  revert opens
  fun_cases lead b with
  | case1 | case2 | case10 =>
      intro opens
      cases opens
  | case3 =>
      rintro ⟨⟩
      refine ⟨rfl, ?_⟩
      dsimp only [Partial.Sound]
      apply sound_two <;> omega
  | case4 | case5 | case6 =>
      rintro ⟨⟩
      refine ⟨rfl, ?_⟩
      dsimp only [Partial.Sound]
      apply sound_three <;> omega
  | case7 | case8 | case9 =>
      rintro ⟨⟩
      refine ⟨rfl, ?_⟩
      dsimp only [Partial.Sound]
      apply sound_four <;> omega

/-! ## The reading -/

/-- The bytes of a character that has been begun, if one has. -/
def seenOf (p : Option Partial) : Bytes := (p.map Partial.seen).getD []

/-- Nothing unsound has been begun. -/
def SoundState (p : Option Partial) : Prop := ∀ q, p = some q → q.Sound

theorem soundState_none : SoundState none := by
  intro q begun
  contradiction

theorem begin_spec (b : UInt8) :
    (begin b).1.flatMap Chunk.bytes ++ seenOf (begin b).2 = [b] ∧ SoundState (begin b).2 := by
  rw [begin]
  cases role : lead b with
  | whole c =>
      refine ⟨?_, soundState_none⟩
      simp [Chunk.bytes, seenOf, encode_of_whole role]
  | opens p =>
      obtain ⟨seen, sound⟩ := sound_of_opens role
      refine ⟨seen, ?_⟩
      rintro _ ⟨⟩
      exact sound
  | illFormed => exact ⟨rfl, soundState_none⟩

/-- One step: the next byte joins what has been seen, and what is begun stays sound. -/
theorem step_spec {p : Option Partial} (sound : SoundState p) (b : UInt8) :
    (step p b).1.flatMap Chunk.bytes ++ seenOf (step p b).2 = seenOf p ++ [b] ∧
      SoundState (step p b).2 := by
  cases p with
  | none => exact begin_spec b
  | some p =>
      have ends := sound p rfl
      rw [step]
      split_ifs with inside
      · dsimp only
        cases p with
        | mk seen later low high bits =>
            cases later with
            | zero =>
                have whole := ends b inside.1 inside.2
                refine ⟨?_, soundState_none⟩
                simp [Chunk.bytes, seenOf, whole]
            | succ later =>
                refine ⟨rfl, ?_⟩
                rintro _ ⟨⟩
                exact ends b inside.1 inside.2
      · obtain ⟨kept, still⟩ := begin_spec b
        refine ⟨?_, still⟩
        rw [List.flatMap_cons, List.append_assoc, kept]
        rfl

/-- The induction is on the bytes that are left; what was seen of an unfinished character
counts as read. -/
theorem bytes_chunksFrom {p : Option Partial} (sound : SoundState p) (bytes : Bytes) :
    (chunksFrom p bytes).flatMap Chunk.bytes = seenOf p ++ bytes := by
  induction bytes generalizing p with
  | nil =>
      cases p with
      | none => rfl
      | some p => rfl
  | cons b rest ih =>
      obtain ⟨kept, still⟩ := step_spec sound b
      rw [chunksFrom_cons, List.flatMap_append, ih still, ← List.append_assoc, kept,
        List.append_assoc]
      rfl

/-- The chunks of a sequence of bytes are that sequence, cut into parts. -/
theorem bytes_chunks (bytes : Bytes) : (chunks bytes).flatMap Chunk.bytes = bytes :=
  bytes_chunksFrom (p := none) nofun bytes

/-- Chunks that are all characters. -/
theorem eq_of_mapM_strict? {cs : List Chunk} {characters : List Char}
    (all : cs.mapM Chunk.strict? = some characters) : cs = characters.map Chunk.char := by
  induction cs generalizing characters with
  | nil =>
      cases all
      rfl
  | cons chunk rest ih =>
      rw [List.mapM_cons] at all
      cases chunk with
      | illFormed bytes => nomatch all
      | char c =>
          cases others : rest.mapM Chunk.strict? with
          | none =>
              rw [others] at all
              nomatch all
          | some more =>
              rw [others] at all
              cases all
              rw [List.map_cons, ih others]

/-- Bytes are a text exactly if they are how the text is written. -/
theorem strict?_eq_some_iff {bytes : Bytes} {text : String} :
    strict? bytes = some text ↔ bytes = Bytes.ofText text := by
  constructor
  · intro accepted
    rw [strict?, Option.map_eq_some_iff] at accepted
    obtain ⟨characters, all, rfl⟩ := accepted
    have each := eq_of_mapM_strict? all
    have whole := bytes_chunks bytes
    rw [each, List.flatMap_map] at whole
    rw [← whole, Bytes.ofText, String.toList_ofList]
    rfl
  · rintro rfl
    exact strict?_ofText text

end EditorClient.Utf8
