/-
# Bytes

Everything that travels on a socket, names a file or is given on the command
line is a sequence of bytes that need not be text. This module fixes the type,
names the bytes that the protocol gives a meaning to, and cuts sequences into
pieces.

`Pieces.split` is how this library takes a stream apart at a separator: reply
lines, expressions on standard input, path components and the octets of an
address are all pieces between separators. `Pieces.fill` is how it takes apart
what is longer than a buffer.
-/

namespace EditorClient

/-- A sequence of bytes, not necessarily text. -/
abbrev Bytes := List UInt8

namespace Bytes

/-- The line end `\n`. -/
@[match_pattern] abbrev newline : UInt8 := 10

/-- The blank between the tokens of a line. -/
@[match_pattern] abbrev space : UInt8 := 32

/-- The byte that marks a quoted character. -/
@[match_pattern] abbrev ampersand : UInt8 := 38

/-- The byte that begins the name of a directive and of an option. -/
@[match_pattern] abbrev dash : UInt8 := 45

/-- The separator of path components. -/
@[match_pattern] abbrev slash : UInt8 := 47

/-- The separator of host and service, and of line and column. -/
@[match_pattern] abbrev colon : UInt8 := 58

/-- The separator of a name and its value. -/
@[match_pattern] abbrev equals : UInt8 := 61

/-- The byte that marks a position among the items. -/
@[match_pattern] abbrev plus : UInt8 := 43

/-- The bytes of a text in UTF-8. -/
def ofText (text : String) : Bytes := text.toList.flatMap String.utf8EncodeChar

/-- What follows `lead` in `bytes`, if `bytes` begins with it. -/
def after? : (lead bytes : Bytes) → Option Bytes
  | [], bytes => some bytes
  | _ :: _, [] => none
  | a :: lead, b :: bytes => if a = b then after? lead bytes else none

/-- The decimal digits of ASCII. -/
def isDigit (b : UInt8) : Bool := 48 ≤ b && b ≤ 57

end Bytes

namespace Pieces

variable {α : Type}

/-- Put an element in front of the first piece. -/
def extend (a : α) : List (List α) → List (List α)
  | [] => [[a]]
  | piece :: pieces => (a :: piece) :: pieces

/-- The pieces of a sequence of which the first holds at most `room` elements and
every other at most `size`. Each piece but the last is as long as it can be, and
only the first can be empty. -/
def fill (size : Nat) : (room : Nat) → List α → List (List α)
  | _, [] => [[]]
  | 0, a :: rest => [] :: extend a (fill size (size - 1) rest)
  | room + 1, a :: rest => extend a (fill size room rest)

variable [DecidableEq α]

/-- The pieces of a sequence between separators. There is always one more piece
than there are separators; adjacent separators leave an empty piece. -/
def split (sep : α) : List α → List (List α)
  | [] => [[]]
  | a :: rest =>
    if a = sep then [] :: split sep rest else extend a (split sep rest)

/-- A sequence without separators is the only piece. -/
theorem split_of_not_mem {sep : α} {whole : List α} (h : sep ∉ whole) :
    split sep whole = [whole] := by
  induction whole with
  | nil => rfl
  | cons a rest ih =>
    have differs : a ≠ sep := fun same => h (same ▸ List.mem_cons_self)
    have absent : sep ∉ rest := fun later => h (List.mem_cons_of_mem a later)
    rw [split, if_neg differs, ih absent, extend]

/-- The part before the first separator and, if there is a separator, the part
after it. -/
def cut (sep : α) : List α → List α × Option (List α)
  | [] => ([], none)
  | a :: rest =>
    if a = sep then ([], some rest)
    else ((a :: (cut sep rest).1), (cut sep rest).2)

/-- What follows a separator is shorter than the whole. -/
theorem length_lt_of_cut {sep : α} {whole rest : List α}
    (h : (cut sep whole).2 = some rest) : rest.length < whole.length := by
  induction whole with
  | nil => simp [cut] at h
  | cons a tail ih =>
    by_cases ha : a = sep
    · simp [cut, ha] at h
      simp [h]
    · simp [cut, ha] at h
      have := ih h
      simp
      omega

end Pieces

end EditorClient
