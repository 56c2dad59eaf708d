/-
# Lines of a stream

A stream of bytes that arrives in parts is taken apart at its newlines. What
stands before a newline is a complete line; what follows the last newline is
kept until more arrives.
-/

import EditorClient.Bytes

namespace EditorClient.Lines

/-- The lines of a stream that a newline ends, without the newlines, and what
follows the last newline. Where there is no newline, nothing is taken apart. -/
def separate (stream : Bytes) : List Bytes × Bytes :=
  if stream.contains Bytes.newline then
    let pieces := Pieces.split Bytes.newline stream
    (pieces.dropLast, pieces.getLastD [])
  else ([], stream)

/-- The complete lines are all pieces but the last, which is the rest. -/
theorem separate_eq (stream : Bytes) :
    separate stream =
      ((Pieces.split Bytes.newline stream).dropLast,
        (Pieces.split Bytes.newline stream).getLastD []) := by
  by_cases h : Bytes.newline ∈ stream
  · rw [separate, if_pos (List.contains_iff_mem.mpr h)]
  · rw [separate, if_neg (mt List.contains_iff_mem.mp h), Pieces.split_of_not_mem h]
    rfl

/-- The lines of a stream that a newline ends, without the newlines. -/
def complete (stream : Bytes) : List Bytes := (separate stream).1

/-- What follows the last newline of a stream. -/
def tail (stream : Bytes) : Bytes := (separate stream).2

/-- The non-empty lines of a stream, whether or not a newline ends the last. -/
def segments (stream : Bytes) : List Bytes :=
  (Pieces.split Bytes.newline stream).filter (· ≠ [])

end EditorClient.Lines
