/-
# Expressions on standard input

Where there is something to evaluate and nothing on the command line, the
expressions are read from standard input, one a line. Which lines these are is said
here without splitting anything: `Lines.Listed` builds a text line by line, and tells
the empty lines, the others, and one that no newline ends. Every text is built in this
way from one list of lines, and these are the expressions that are read.

The lines are read one after the other into a buffer. What the rounds of the reading find
together are the segments of the text (`readExpressions_eq`), of which all else is said.
What does not depend on the text follows from `Lines.segments_between`: a newline
divides the text into two that are read each by itself, so an empty line anywhere
between two lines makes no difference.
-/

import EditorClient.Proofs.Lines
import EditorClient.Request.Item

namespace EditorClient

open Bytes

namespace Lines

/-- These are the lines of a text that are not empty, in their order. The last of them
may be without a newline. -/
inductive Listed : List Bytes → Bytes → Prop
  /-- A text without lines. -/
  | nothing : Listed [] []
  /-- An empty line is not listed. -/
  | blank {lines : List Bytes} {rest : Bytes} (later : Listed lines rest) :
      Listed lines (newline :: rest)
  /-- Any other line is listed as it is. -/
  | line {line : Bytes} {lines : List Bytes} {rest : Bytes} (nonempty : line ≠ [])
      (whole : newline ∉ line) (later : Listed lines rest) :
      Listed (line :: lines) (line ++ newline :: rest)
  /-- A last line that no newline ends is listed as well. -/
  | last {line : Bytes} (nonempty : line ≠ []) (whole : newline ∉ line) : Listed [line] line

/-- One line ends where a text is divided in two, or another begins there. -/
inductive Boundary : Bytes → Bytes → Prop
  | start (rest : Bytes) : Boundary [] rest
  | behind (first rest : Bytes) : Boundary (first ++ [newline]) rest
  | before (first rest : Bytes) : Boundary first (newline :: rest)
  | stop (first : Bytes) : Boundary first []

variable {line rest : Bytes} {lines : List Bytes}

/-! ## Segments -/

@[simp]
theorem segments_nil : segments [] = [] := rfl

/-- What stands before a newline and what stands behind it have nothing to do with each
other. -/
theorem segments_between (first rest : Bytes) :
    segments (first ++ newline :: rest) = segments first ++ segments rest := by
  have pieces : Pieces.split newline (first ++ newline :: rest) =
      Pieces.split newline first ++ Pieces.split newline rest := by
    rw [Pieces.split_append, ← tail_eq, ← complete_eq,
      Pieces.split_cons_of_not_mem (newline_not_mem_tail first), ← complete_concat_tail first,
      List.append_assoc, List.singleton_append]
  rw [segments, pieces, List.filter_append, segments, segments]

theorem segments_cons_newline (rest : Bytes) : segments (newline :: rest) = segments rest :=
  segments_between [] rest

theorem segments_of_line (nonempty : line ≠ []) (whole : newline ∉ line) :
    segments line = [line] := by
  rw [segments, Pieces.split_of_not_mem whole, List.filter_cons_of_pos (by simpa using nonempty),
    List.filter_nil]

/-- The list of the lines of a text is the list of its segments. -/
theorem Listed.segments_eq {text : Bytes} (listed : Listed lines text) :
    segments text = lines := by
  induction listed with
  | nothing => exact segments_nil
  | blank later ih => rw [segments_cons_newline, ih]
  | line nonempty whole later ih =>
      rw [segments_between, segments_of_line nonempty whole, ih, List.singleton_append]
  | last nonempty whole => exact segments_of_line nonempty whole

/-- Every text has a list of its lines. The induction is on the length: what follows the
first newline is shorter. -/
theorem listed_segments (text : Bytes) : Listed (segments text) text := by
  induction shorter : text.length using Nat.strong_induction_on generalizing text with
  | _ length ih =>
  by_cases there : newline ∈ text
  · obtain ⟨line, rest, rfl, whole⟩ := List.eq_append_cons_of_mem there
    have later : Listed (segments rest) rest := by
      apply ih rest.length _ rest rfl
      rw [← shorter, List.length_append, List.length_cons]
      omega
    by_cases empty : line = []
    · subst empty
      rw [List.nil_append, segments_cons_newline]
      exact .blank later
    · rw [segments_between, segments_of_line empty whole, List.singleton_append]
      exact .line empty whole later
  · by_cases empty : text = []
    · subst empty
      exact .nothing
    · rw [segments_of_line empty there]
      exact .last empty there

theorem listed_iff {text : Bytes} : Listed lines text ↔ lines = segments text :=
  ⟨fun listed => listed.segments_eq.symm, fun same => same ▸ listed_segments text⟩

theorem nonempty_of_mem_segments {text : Bytes} (there : line ∈ segments text) :
    line ≠ [] ∧ newline ∉ line := by
  obtain ⟨piece, nonempty⟩ := List.mem_filter.mp there
  exact ⟨of_decide_eq_true nonempty, Pieces.not_mem_of_mem_split piece⟩

/-! ## Empty lines -/

/-- A text that is divided between two lines is read in two parts. -/
theorem Boundary.segments_append {first : Bytes} (boundary : Boundary first rest) :
    segments (first ++ rest) = segments first ++ segments rest := by
  cases boundary with
  | start => rfl
  | behind first =>
      rw [List.append_assoc, List.singleton_append, segments_between, segments_concat_newline]
  | before first rest => rw [segments_between, segments_cons_newline]
  | stop => rw [List.append_nil, segments_nil, List.append_nil]

theorem segments_blanks_append {blanks : Bytes} (only : ∀ b ∈ blanks, b = newline)
    (rest : Bytes) : segments (blanks ++ rest) = segments rest := by
  induction blanks with
  | nil => rfl
  | cons b blanks ih =>
      rw [only b List.mem_cons_self, List.cons_append, segments_cons_newline,
        ih fun other there => only other (List.mem_cons_of_mem b there)]

/-- Newlines between two lines are empty lines. -/
theorem Boundary.segments_insert {first blanks : Bytes} (boundary : Boundary first rest)
    (only : ∀ b ∈ blanks, b = newline) :
    segments (first ++ blanks ++ rest) = segments (first ++ rest) := by
  cases blanks with
  | nil => rw [List.append_nil]
  | cons b more =>
      have others : ∀ b ∈ more, b = newline := fun b there =>
        only b (List.mem_cons_of_mem _ there)
      rw [only b List.mem_cons_self, List.append_assoc, List.cons_append, segments_between,
        segments_blanks_append others, boundary.segments_append]

/-! ## Joining lines -/

/-- Lines with newlines between them are the lines of what they make up. -/
theorem listed_intercalate (lines : List Bytes)
    (each : ∀ line ∈ lines, line ≠ [] ∧ newline ∉ line) :
    Listed lines ([newline].intercalate lines) := by
  induction lines with
  | nil => exact .nothing
  | cons line lines ih =>
      obtain ⟨nonempty, whole⟩ := each line List.mem_cons_self
      have later := ih fun other there => each other (List.mem_cons_of_mem line there)
      cases lines with
      | nil =>
          rw [List.intercalate_singleton]
          exact .last nonempty whole
      | cons next others =>
          rw [List.intercalate_cons_cons, List.append_assoc]
          exact .line nonempty whole later

end Lines

namespace Item

/-! ## Reading -/

/-- A read stops behind the first newline. -/
theorem readLine_of_newline {line : Bytes} (whole : newline ∉ line) (rest : Bytes) :
    readLine (line ++ newline :: rest) = (line ++ [newline], rest) := by
  have before : ∀ b ∈ line, decide (b ≠ newline) = true := fun b there =>
    decide_eq_true fun same => whole (same ▸ there)
  rw [readLine, List.dropWhile_append_of_pos before, List.takeWhile_append_of_pos before,
    List.dropWhile_cons_of_neg (p := (· ≠ newline)) (by decide),
    List.takeWhile_cons_of_neg (p := (· ≠ newline)) (by decide), List.append_nil]

/-- Where there is no newline a read takes everything. -/
theorem readLine_of_not_mem {line : Bytes} (whole : newline ∉ line) :
    readLine line = (line, []) := by
  have before : ∀ b ∈ line, decide (b ≠ newline) = true := fun b there =>
    decide_eq_true fun same => whole (same ▸ there)
  rw [readLine, List.dropWhile_eq_nil_iff.mpr before, List.takeWhile_eq_self_iff.mpr before]

theorem withoutNewline_concat (line : Bytes) : withoutNewline (line ++ [newline]) = line := by
  rw [withoutNewline, if_pos List.getLast?_concat, List.dropLast_concat]

theorem withoutNewline_of_not_mem {line : Bytes} (whole : newline ∉ line) :
    withoutNewline line = line := by
  rw [withoutNewline, if_neg fun last => whole (List.mem_of_getLast? last)]

/-- Only where nothing is left does a read read nothing. -/
theorem readLine_eq_nil {input : Bytes} (nothing : (readLine input).1 = []) : input = [] := by
  by_cases there : newline ∈ input
  · obtain ⟨line, rest, rfl, whole⟩ := List.eq_append_cons_of_mem there
    rw [readLine_of_newline whole] at nothing
    exact absurd nothing (List.append_ne_nil_of_right_ne_nil line (List.cons_ne_nil _ _))
  · rwa [readLine_of_not_mem there] at nothing

/-- One line adds its segment to the items, and an empty one adds nothing. -/
theorem reverse_append_line (items : List Item) {line : Bytes} (whole : newline ∉ line) :
    (if line = [] then items else .expression line :: items).reverse =
      items.reverse ++ (Lines.segments line).map .expression := by
  by_cases empty : line = []
  · subst empty
    rw [if_pos rfl, Lines.segments_nil, List.map_nil, List.append_nil]
  · rw [if_neg empty, Lines.segments_of_line empty whole, List.reverse_cons]
    rfl

/-- Reading line by line finds the lines that are not empty. The induction is on the rounds
of the reading, and each finds the text as the round before has left it. -/
theorem readExpressions_eq (items : List Item) (input : Bytes) :
    readExpressions items input = items.reverse ++ (Lines.segments input).map .expression := by
  induction items, input using readExpressions.induct with
  | case1 items input read nothing =>
      have empty : input = [] := readLine_eq_nil nothing
      subst empty
      rw [readExpressions, if_pos nothing, Lines.segments_nil, List.map_nil, List.append_nil]
  | case2 items input read some_ line ih =>
      rw [readExpressions, if_neg some_]
      refine ih.trans ?_
      by_cases there : newline ∈ input
      · obtain ⟨first, rest, rfl, whole⟩ := List.eq_append_cons_of_mem there
        have found : read = (first ++ [newline], rest) := readLine_of_newline whole rest
        have same : line = first := by
          change withoutNewline read.1 = first
          rw [found, withoutNewline_concat]
        rw [same, found, Lines.segments_between, List.map_append, ← List.append_assoc]
        exact congrArg (· ++ _) (reverse_append_line items whole)
      · have found : read = (input, []) := readLine_of_not_mem there
        have same : line = input := by
          change withoutNewline read.1 = input
          rw [found, withoutNewline_of_not_mem there]
        rw [same, found, Lines.segments_nil, List.map_nil, List.append_nil]
        exact reverse_append_line items there

theorem expressions_eq (input : Bytes) :
    expressions input = (Lines.segments input).map .expression := readExpressions_eq [] input

/-- Standard input is read completely. The expressions are the lines that are not empty,
in order and byte for byte, the last one also where no newline ends it. So no expression
holds a newline, empty lines and a newline at the end make no difference, and the
expressions with newlines between them are read as the same expressions. -/
theorem expressions_read_completely (input : Bytes) :
    ∃ lines : List Bytes, expressions input = lines.map .expression ∧
      (∀ others, Lines.Listed others input ↔ others = lines) ∧
      (∀ line ∈ lines, line ≠ [] ∧ newline ∉ line) ∧
      (∀ first rest blanks, input = first ++ rest → Lines.Boundary first rest →
        (∀ b ∈ blanks, b = newline) →
          expressions (first ++ blanks ++ rest) = expressions input) ∧
      expressions ([newline].intercalate lines) = expressions input := by
  have each : ∀ line ∈ Lines.segments input, line ≠ [] ∧ newline ∉ line :=
    fun _ => Lines.nonempty_of_mem_segments
  refine ⟨Lines.segments input, expressions_eq input, fun _ => Lines.listed_iff, each, ?_, ?_⟩
  · rintro first rest blanks rfl boundary only
    rw [expressions_eq, boundary.segments_insert only, expressions_eq]
  · rw [expressions_eq, (Lines.listed_intercalate _ each).segments_eq, expressions_eq]

/-- Bytes that end lines elsewhere are part of a line, and so are bytes that are no text. -/
example : expressions [97, 13, 10, 10, 0, 133, 10, 255] =
    [.expression [97, 13], .expression [0, 133], .expression [255]] := by cbv

end Item

end EditorClient
