/-
# Reading bytes as text

The bytes of a text in UTF-8 are read one at a time. A byte either completes a
character, extends a character that has been begun, or shows that what was read
so far cannot become one. In the last case the longest part that could have
begun a character counts as one ill-formed chunk, and reading goes on at the
byte that broke it off.

`chunks` is that reading. `lossy` puts the replacement character in the place of
each ill-formed chunk, and `strict?` accepts only sequences that have none.
-/

import EditorClient.Bytes

namespace EditorClient.Utf8

/-- A chunk of the reading: a character, or bytes that are not part of one. -/
inductive Chunk
  | char (c : Char)
  | illFormed (bytes : Bytes)
  deriving DecidableEq, Repr

/-- A character of which some bytes have been read: those bytes, the number of
bytes that come after the next one, the range in which the next byte must lie,
and the bits read so far. -/
structure Partial where
  seen : Bytes
  later : Nat
  low : Nat
  high : Nat
  bits : Nat
  deriving DecidableEq, Repr

/-- What a byte can be at the start of a character. -/
inductive Lead
  | whole (c : Char)
  | opens (p : Partial)
  | illFormed
  deriving DecidableEq, Repr

/-- The role of a byte at the start of a character. The ranges exclude overlong
forms, surrogates and code points past the last one. -/
def lead (b : UInt8) : Lead :=
  let n := b.toNat
  if n < 0x80 then .whole (Char.ofNat n)
  else if n < 0xC2 then .illFormed
  else if n < 0xE0 then .opens ⟨[b], 0, 0x80, 0xBF, n - 0xC0⟩
  else if n = 0xE0 then .opens ⟨[b], 1, 0xA0, 0xBF, 0⟩
  else if n = 0xED then .opens ⟨[b], 1, 0x80, 0x9F, 0xD⟩
  else if n < 0xF0 then .opens ⟨[b], 1, 0x80, 0xBF, n - 0xE0⟩
  else if n = 0xF0 then .opens ⟨[b], 2, 0x90, 0xBF, 0⟩
  else if n < 0xF4 then .opens ⟨[b], 2, 0x80, 0xBF, n - 0xF0⟩
  else if n = 0xF4 then .opens ⟨[b], 2, 0x80, 0x8F, 4⟩
  else .illFormed

/-- The chunks that a byte at the start of a character completes, and the
character it begins. -/
def begin (b : UInt8) : List Chunk × Option Partial :=
  match lead b with
  | .whole c => ([.char c], none)
  | .opens p => ([], some p)
  | .illFormed => ([.illFormed [b]], none)

/-- The chunks that the next byte completes, and the character that is then
begun but not finished. -/
def step : Option Partial → UInt8 → List Chunk × Option Partial
  | none, b => begin b
  | some p, b =>
    if p.low ≤ b.toNat ∧ b.toNat ≤ p.high then
      let bits := p.bits * 64 + (b.toNat - 0x80)
      match p.later with
      | 0 => ([.char (Char.ofNat bits)], none)
      | later + 1 => ([], some ⟨p.seen ++ [b], later, 0x80, 0xBF, bits⟩)
    else (.illFormed p.seen :: (begin b).1, (begin b).2)

/-- The chunks of the bytes that follow an unfinished character. An unfinished
character at the end is ill-formed. -/
def chunksFrom : Option Partial → Bytes → List Chunk
  | none, [] => []
  | some p, [] => [.illFormed p.seen]
  | p, b :: rest => (step p b).1 ++ chunksFrom (step p b).2 rest

/-- The characters and ill-formed parts of a sequence of bytes, in order. -/
def chunks (bytes : Bytes) : List Chunk := chunksFrom none bytes

/-- The character that stands for an ill-formed part. -/
def replacement : Char := '\uFFFD'

/-- A chunk as one character, with an ill-formed part replaced. -/
def Chunk.lossy : Chunk → Char
  | .char c => c
  | .illFormed _ => replacement

/-- A chunk that is a character. -/
def Chunk.strict? : Chunk → Option Char
  | .char c => some c
  | .illFormed _ => none

/-- The text of any sequence of bytes, with each ill-formed part replaced. -/
def lossy (bytes : Bytes) : String := String.ofList ((chunks bytes).map Chunk.lossy)

/-- The text of a sequence of bytes that has no ill-formed part. -/
def strict? (bytes : Bytes) : Option String :=
  ((chunks bytes).mapM Chunk.strict?).map String.ofList

end EditorClient.Utf8
