/-
# Cutting streams at separators

A stream that arrives in two portions has the lines of the first portion, and
then the lines of what the first portion left over together with the second.
That is the whole of what a reader of lines needs to know of the way a stream
was cut: `Lines.complete_append` and `Lines.tail_append` say it for the two parts
that such a reader computes, and `Lines.tail_eq_rtakeWhile` says what is kept
without speaking of pieces at all.
-/

import EditorClient.Wire.Lines
import Mathlib.Data.List.DropRight

namespace EditorClient

namespace Pieces

variable {α : Type}

/-- Filling a buffer again and again neither loses nor moves an element. -/
theorem flatten_fill (size room : Nat) (whole : List α) :
    (fill size room whole).flatten = whole := by
  have flatten_extend (a : α) (pieces : List (List α)) :
      (extend a pieces).flatten = a :: pieces.flatten := by
    cases pieces <;> rfl
  induction whole generalizing room with
  | nil => cases room <;> rfl
  | cons a rest ih =>
      cases room with
      | zero => rw [fill, List.flatten_cons, List.nil_append, flatten_extend, ih]
      | succ room => rw [fill, flatten_extend, ih]

theorem fill_of_le (size : Nat) {room : Nat} {whole : List α} (fits : whole.length ≤ room) :
    fill size room whole = [whole] := by
  induction whole generalizing room with
  | nil => cases room <;> rfl
  | cons a rest ih =>
      obtain ⟨less, rfl⟩ := Nat.exists_eq_add_one_of_ne_zero (Nat.ne_of_gt (Nat.zero_lt_of_lt fits))
      rw [fill, ih (by simpa using fits), extend]

/-- What does not fit fills the room, and the others start anew. -/
theorem fill_of_lt {size room : Nat} {whole : List α} (positive : 0 < size)
    (long : room < whole.length) :
    fill size room whole = whole.take room :: fill size size (whole.drop room) := by
  induction whole generalizing room with
  | nil => simp at long
  | cons a rest ih =>
      cases room with
      | zero =>
          obtain ⟨less, rfl⟩ := Nat.exists_eq_add_one_of_ne_zero (Nat.ne_of_gt positive)
          rfl
      | succ room =>
          rw [fill, ih (by simpa using long)]
          rfl

variable [DecidableEq α]

/-- There is always a piece. -/
theorem split_ne_nil (sep : α) (whole : List α) : split sep whole ≠ [] := by
  cases whole with
  | nil => simp [split]
  | cons a rest =>
      rw [split]
      split
      · simp
      · cases split sep rest <;> simp [extend]

/-- All pieces but the last of what came first are pieces of the whole. The last
one is still open: what comes later continues it. -/
theorem split_append (sep : α) (first later : List α) :
    split sep (first ++ later) =
      (split sep first).dropLast ++ split sep ((split sep first).getLastD [] ++ later) := by
  induction first with
  | nil => rfl
  | cons a rest ih =>
      by_cases same : a = sep
      · obtain ⟨piece, pieces, shape⟩ := List.exists_cons_of_ne_nil (split_ne_nil sep rest)
        rw [List.cons_append, split, if_pos same, split, if_pos same, ih, shape]
        rfl
      · obtain ⟨piece, pieces, shape⟩ := List.exists_cons_of_ne_nil (split_ne_nil sep rest)
        rw [List.cons_append, split, if_neg same, split, if_neg same, ih, shape]
        cases pieces with
        | nil => simp [extend, split, same]
        | cons next others => simp [extend]

/-- A separator ends the piece that stands before it. -/
theorem split_cons_of_not_mem {sep : α} {line : List α} (absent : sep ∉ line)
    (rest : List α) : split sep (line ++ sep :: rest) = line :: split sep rest := by
  induction line with
  | nil => rw [List.nil_append, split, if_pos rfl]
  | cons a line ih =>
      have differs : a ≠ sep := fun same => absent (same ▸ List.mem_cons_self)
      have later : sep ∉ line := fun found => absent (List.mem_cons_of_mem a found)
      rw [List.cons_append, split, if_neg differs, ih later, extend]

/-- Pieces that are each ended by a separator are found again, with nothing behind them. -/
theorem split_flatMap_concat {sep : α} {pieces : List (List α)}
    (absent : ∀ piece ∈ pieces, sep ∉ piece) :
    split sep (pieces.flatMap (· ++ [sep])) = pieces ++ [[]] := by
  induction pieces with
  | nil => rfl
  | cons piece rest ih =>
      have later := ih fun other there => absent other (List.mem_cons_of_mem piece there)
      rw [List.flatMap_cons, List.append_assoc, List.singleton_append,
        split_cons_of_not_mem (absent piece List.mem_cons_self), later, List.cons_append]

/-- All pieces but the last with a separator behind each, and the last, are the whole. -/
theorem flatMap_dropLast_append_getLastD (sep : α) (whole : List α) :
    (split sep whole).dropLast.flatMap (· ++ [sep]) ++ (split sep whole).getLastD [] = whole := by
  induction whole with
  | nil => rfl
  | cons a rest ih =>
      obtain ⟨piece, pieces, shape⟩ := List.exists_cons_of_ne_nil (split_ne_nil sep rest)
      rw [shape] at ih
      by_cases same : a = sep
      · rw [split, if_pos same, shape, same]
        exact congrArg (sep :: ·) ih
      · rw [split, if_neg same, shape, extend]
        cases pieces with
        | nil => exact congrArg (a :: ·) ih
        | cons next others => exact congrArg (a :: ·) ih

/-- No piece holds a separator. -/
theorem not_mem_of_mem_split {sep : α} {whole piece : List α}
    (found : piece ∈ split sep whole) : sep ∉ piece := by
  induction whole generalizing piece with
  | nil => simp_all [split]
  | cons a rest ih =>
      by_cases same : a = sep
      · rw [split, if_pos same] at found
        rcases List.mem_cons.mp found with rfl | later
        · exact List.not_mem_nil
        · exact ih later
      · rw [split, if_neg same] at found
        obtain ⟨first, others, shape⟩ := List.exists_cons_of_ne_nil (split_ne_nil sep rest)
        rw [shape, extend] at found
        rcases List.mem_cons.mp found with rfl | later
        · have absent : sep ∉ first := ih (shape ▸ List.mem_cons_self)
          simp [Ne.symm same, absent]
        · exact ih (shape ▸ List.mem_cons_of_mem first later)

/-- A separator is found behind the part before it. -/
theorem cut_cons_of_not_mem {sep : α} {part : List α} (absent : sep ∉ part) (rest : List α) :
    cut sep (part ++ sep :: rest) = (part, some rest) := by
  induction part with
  | nil => rw [List.nil_append, cut, if_pos rfl]
  | cons a part ih =>
      have differs : a ≠ sep := fun same => absent (same ▸ List.mem_cons_self)
      have later : sep ∉ part := fun found => absent (List.mem_cons_of_mem a found)
      rw [List.cons_append, cut, if_neg differs, ih later]

/-- Without a separator there is nothing to cut. -/
theorem cut_of_not_mem {sep : α} {whole : List α} (absent : sep ∉ whole) :
    cut sep whole = (whole, none) := by
  induction whole with
  | nil => rfl
  | cons a rest ih =>
      have differs : a ≠ sep := fun same => absent (same ▸ List.mem_cons_self)
      have later : sep ∉ rest := fun found => absent (List.mem_cons_of_mem a found)
      rw [cut, if_neg differs, ih later]

end Pieces

namespace Lines

open Pieces

theorem complete_eq (stream : Bytes) :
    complete stream = (split Bytes.newline stream).dropLast := by
  rw [complete, separate_eq]

theorem tail_eq (stream : Bytes) :
    tail stream = (split Bytes.newline stream).getLastD [] := by
  rw [tail, separate_eq]

/-- Nothing but the rest follows the complete lines. -/
theorem complete_concat_tail (stream : Bytes) :
    complete stream ++ [tail stream] = split Bytes.newline stream := by
  have nonempty := split_ne_nil Bytes.newline stream
  rw [complete_eq, tail_eq, List.getLastD_eq_getLast?, List.getLast?_eq_some_getLast nonempty,
    Option.getD_some, List.dropLast_concat_getLast]

/-- A stream is its complete lines, each with its newline, and then the rest. -/
theorem flatMap_complete_append_tail (stream : Bytes) :
    (complete stream).flatMap (· ++ [Bytes.newline]) ++ tail stream = stream := by
  rw [complete_eq, tail_eq, flatMap_dropLast_append_getLastD]

/-- What later bytes complete, they complete together with the rest that was kept. -/
theorem complete_append (first later : Bytes) :
    complete (first ++ later) = complete first ++ complete (tail first ++ later) := by
  rw [complete_eq, split_append, List.dropLast_append_of_ne_nil (split_ne_nil _ _),
    complete_eq, complete_eq, tail_eq]

/-- Only the rest that was kept matters for what will be kept. -/
theorem tail_append (first later : Bytes) :
    tail (first ++ later) = tail (tail first ++ later) := by
  have nonempty := split_ne_nil Bytes.newline (tail first ++ later)
  rw [tail_eq, split_append, ← tail_eq, tail_eq (tail first ++ later),
    List.getLastD_eq_getLast?, List.getLastD_eq_getLast?,
    List.getLast?_append_of_ne_nil _ nonempty]

@[simp]
theorem complete_nil : complete [] = [] := rfl

@[simp]
theorem tail_nil : tail [] = [] := rfl

/-- Without a newline there is no complete line. -/
theorem complete_of_not_mem {stream : Bytes} (absent : Bytes.newline ∉ stream) :
    complete stream = [] := by
  rw [complete_eq, split_of_not_mem absent]
  rfl

/-- Without a newline everything is kept. -/
theorem tail_of_not_mem {stream : Bytes} (absent : Bytes.newline ∉ stream) :
    tail stream = stream := by
  rw [tail_eq, split_of_not_mem absent]
  rfl

theorem newline_not_mem_tail (stream : Bytes) : Bytes.newline ∉ tail stream := by
  apply not_mem_of_mem_split
  rw [← complete_concat_tail]
  exact List.mem_concat_self

/-- A single byte ends the line or is kept. -/
theorem tail_concat (stream : Bytes) (b : UInt8) :
    tail (stream ++ [b]) = if b = Bytes.newline then [] else tail stream ++ [b] := by
  have kept := newline_not_mem_tail stream
  rw [tail_append]
  by_cases same : b = Bytes.newline
  · rw [if_pos same, tail_eq, same, split_cons_of_not_mem kept]
    rfl
  · have open_ : Bytes.newline ∉ tail stream ++ [b] := by
      simp [kept, Ne.symm same]
    rw [if_neg same, tail_eq, split_of_not_mem open_]
    rfl

/-- The rest is what follows the last newline. -/
theorem tail_eq_rtakeWhile (stream : Bytes) :
    tail stream = stream.rtakeWhile (· ≠ Bytes.newline) := by
  induction stream using List.reverseRecOn with
  | nil => rfl
  | append_singleton stream b ih =>
      rw [tail_concat, List.rtakeWhile_concat, ih]
      by_cases same : b = Bytes.newline <;> simp [same]

/-- The segments of a stream are its complete lines and its rest, without the
empty ones. -/
theorem segments_eq (stream : Bytes) :
    segments stream = (complete stream ++ [tail stream]).filter (· ≠ []) := by
  rw [segments, complete_concat_tail]

/-- Lines that are each ended by a newline are found again. -/
theorem complete_flatMap_concat {lines : List Bytes}
    (absent : ∀ line ∈ lines, Bytes.newline ∉ line) :
    complete (lines.flatMap (· ++ [Bytes.newline])) = lines := by
  rw [complete_eq, split_flatMap_concat absent, List.dropLast_concat]

theorem tail_flatMap_concat {lines : List Bytes}
    (absent : ∀ line ∈ lines, Bytes.newline ∉ line) :
    tail (lines.flatMap (· ++ [Bytes.newline])) = [] := by
  rw [tail_eq, split_flatMap_concat absent, List.getLastD_concat]

/-- It makes no difference to the segments whether the last line is ended. -/
theorem segments_concat_newline (stream : Bytes) :
    segments (stream ++ [Bytes.newline]) = segments stream := by
  have kept := newline_not_mem_tail stream
  rw [segments, split_append, ← tail_eq, ← complete_eq, split_cons_of_not_mem kept,
    segments_eq, List.filter_append, List.filter_append]
  simp [split, List.filter_cons]

end Lines

end EditorClient
