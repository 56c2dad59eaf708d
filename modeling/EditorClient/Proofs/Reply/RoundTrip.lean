/-
# Replies can be read back

Which directive a line carries is decided by its first word, that is by what stands
before the first space: `argument?_eq`. So a line carries at most one of the known
directives, and no name is taken for a longer one.

`encode` writes a reply as a server does. A stream of replies that were written so,
each ended by a newline, is taken apart into the same lines and parsed into the same
replies. Process numbers may be any that fit, and texts any bytes. A line that is
kept as it is must be one that carries no known directive, or a process number that
cannot be read.
-/

import EditorClient.Proofs.Lines
import EditorClient.Proofs.Text.Decimal
import EditorClient.Proofs.Text.Utf8
import EditorClient.Proofs.Wire.Token
import EditorClient.Reply
import Mathlib.Data.List.Basic

namespace EditorClient

open Bytes

namespace Bytes

theorem after?_eq_some_iff {lead bytes rest : Bytes} :
    after? lead bytes = some rest ↔ bytes = lead ++ rest := by
  induction lead generalizing bytes with
  | nil => simp [after?]
  | cons a lead ih =>
      cases bytes with
      | nil => simp [after?]
      | cons b bytes =>
          by_cases same : a = b
          · simp [after?, same, ih]
          · simp [after?, same, Ne.symm same]

end Bytes

namespace Reply

/-! ## The first word of a line -/

/-- What stands before the first space of a line. -/
def word (line : Bytes) : Bytes := (Pieces.cut space line).1

/-- What follows the first space of a line. -/
def remainder (line : Bytes) : Bytes := (Pieces.cut space line).2.getD []

theorem word_of_not_mem {line : Bytes} (absent : space ∉ line) : word line = line := by
  rw [word, Pieces.cut_of_not_mem absent]

theorem word_append_cons {first : Bytes} (absent : space ∉ first) (rest : Bytes) :
    word (first ++ space :: rest) = first := by
  rw [word, Pieces.cut_cons_of_not_mem absent]

theorem remainder_of_not_mem {line : Bytes} (absent : space ∉ line) : remainder line = [] := by
  rw [remainder, Pieces.cut_of_not_mem absent, Option.getD_none]

theorem remainder_append_cons {first : Bytes} (absent : space ∉ first) (rest : Bytes) :
    remainder (first ++ space :: rest) = rest := by
  rw [remainder, Pieces.cut_cons_of_not_mem absent, Option.getD_some]

/-- A line carries a directive exactly if its first word is the name, and then the argument
is all that follows the first space. -/
theorem argument?_eq {name : String} (absent : space ∉ ofText name) (line : Bytes) :
    argument? name line = if word line = ofText name then some (remainder line) else none := by
  unfold argument?
  -- A name has no space, so what it is followed by decides whether it is the first word.
  by_cases divided : space ∈ line
  · obtain ⟨first, rest, rfl, solid⟩ := List.eq_append_cons_of_mem divided
    rw [word_append_cons solid, remainder_append_cons solid]
    split_ifs with named
    · rw [after?_eq_some_iff.mpr (congrArg (· ++ space :: rest) named)]
      rfl
    · split
      case h_1 => rfl
      case h_2 found =>
          have whole := after?_eq_some_iff.mp found
          rw [List.append_nil] at whole
          exact absurd (whole ▸ divided) absent
      case h_3 b arg found =>
          refine if_neg fun isSpace => named ?_
          have whole := after?_eq_some_iff.mp found
          rw [← word_append_cons solid rest, whole, isSpace, word_append_cons absent]
  · rw [word_of_not_mem divided, remainder_of_not_mem divided]
    split_ifs with named
    · rw [after?_eq_some_iff.mpr (named.trans (List.append_nil _).symm)]
    · split
      case h_1 => rfl
      case h_2 found => exact absurd (by simpa using after?_eq_some_iff.mp found) named
      case h_3 b arg found =>
          refine if_neg fun isSpace => divided ?_
          rw [after?_eq_some_iff.mp found, isSpace]
          simp

/-! ## The known directives -/

/-- The names of the directives that a line may carry. -/
def names : List String :=
  ["-emacs-pid", "-window-system-unsupported", "-print", "-print-nonl", "-error", "-suspend"]

theorem space_not_mem_of_mem_names {name : String} (known : name ∈ names) :
    space ∉ ofText name := by
  have all : ∀ name ∈ names, space ∉ ofText name := by decide
  exact all name known

theorem argument?_of_mem_names {name : String} (known : name ∈ names) (line : Bytes) :
    argument? name line = if word line = ofText name then some (remainder line) else none :=
  argument?_eq (space_not_mem_of_mem_names known) line

/-- The first word of a line decides which reply it is. -/
theorem parse_eq (line : Bytes) : parse line =
    if word line = ofText "-emacs-pid" then
      match pid? (remainder line) with
      | some pid => .serverPid pid
      | none => .unknown line
    else if word line = ofText "-window-system-unsupported" then .windowSystemUnsupported
    else if word line = ofText "-print" then .print (Token.unescape (remainder line))
    else if word line = ofText "-print-nonl" then .printNoNewline (Token.unescape (remainder line))
    else if word line = ofText "-error" then .error (Token.unescape (remainder line))
    else if word line = ofText "-suspend" then .suspend
    else .unknown line := by
  have carried (name : String) (known : name ∈ names) := argument?_of_mem_names known line
  simp only [parse, carried "-emacs-pid" (by decide),
    carried "-window-system-unsupported" (by decide), carried "-print" (by decide),
    carried "-print-nonl" (by decide), carried "-error" (by decide), carried "-suspend" (by decide),
    Option.isSome_ite]
  split_ifs <;> rfl

/-- No line carries two of the known directives. -/
theorem eq_of_isSome_argument? {name other : String} (known : name ∈ names) (known' : other ∈ names)
    {line : Bytes} (found : (argument? name line).isSome) (found' : (argument? other line).isSome) :
    name = other := by
  rw [argument?_of_mem_names known, Option.isSome_ite] at found
  rw [argument?_of_mem_names known', Option.isSome_ite] at found'
  exact Utf8.ofText_injective (found.symm.trans found')

/-! ## Writing replies -/

/-- The line of a directive with an argument. -/
def lineOf (name : String) (arg : Bytes) : Bytes := ofText name ++ space :: arg

/-- The line in which a server writes a reply. -/
def encode : Reply → Bytes
  | .serverPid pid => lineOf "-emacs-pid" (ofText (Decimal.ofInt pid.toInt))
  | .windowSystemUnsupported => ofText "-window-system-unsupported"
  | .print text => lineOf "-print" (Token.escape text)
  | .printNoNewline text => lineOf "-print-nonl" (Token.escape text)
  | .error text => lineOf "-error" (Token.escape text)
  | .suspend => ofText "-suspend"
  | .unknown line => line

/-- A reply that can be written: what is kept as it is must be a line, and one that
carries no known directive other than a process number that cannot be read. -/
def Proper : Reply → Prop
  | .unknown line => line ≠ [] ∧ newline ∉ line ∧ ∀ name ∈ names, word line = ofText name →
      name = "-emacs-pid" ∧ pid? (remainder line) = none
  | _ => True

instance : DecidablePred Proper
  | .unknown line =>
      inferInstanceAs (Decidable (line ≠ [] ∧ newline ∉ line ∧ ∀ name ∈ names,
        word line = ofText name → name = "-emacs-pid" ∧ pid? (remainder line) = none))
  | .serverPid _ | .windowSystemUnsupported | .print _ | .printNoNewline _ | .error _
  | .suspend => .isTrue trivial

theorem word_lineOf {name : String} (known : name ∈ names) (arg : Bytes) :
    word (lineOf name arg) = ofText name :=
  word_append_cons (space_not_mem_of_mem_names known) arg

theorem remainder_lineOf {name : String} (known : name ∈ names) (arg : Bytes) :
    remainder (lineOf name arg) = arg :=
  remainder_append_cons (space_not_mem_of_mem_names known) arg

/-- A process number is read back from its digits. -/
theorem pid?_ofInt (pid : Int32) : pid? (ofText (Decimal.ofInt pid.toInt)) = some pid := by
  have solid (c : Char) (there : c ∈ (Decimal.ofInt pid.toInt).toList) : Blank.isBlank c = false :=
    Blank.isBlank_of_mem_ofInt there
  have absent : ' ' ∉ (Decimal.ofInt pid.toInt).toList := by
    intro there
    exact absurd (solid ' ' there) (by decide)
  rw [pid?, Utf8.strict?_ofText]
  change Decimal.int32? (Pieces.cut ' ' (Blank.trim (Decimal.ofInt pid.toInt).toList)).1 = some pid
  rw [Blank.trim_of_not_isBlank solid, Pieces.cut_of_not_mem absent, Decimal.int32?_ofInt]

/-- A reply is parsed back from its line. -/
theorem parse_encode {r : Reply} (proper : r.Proper) : parse r.encode = r := by
  have same (a b : String) : ofText a = ofText b ↔ a = b := Utf8.ofText_injective.eq_iff
  cases r with
  | serverPid pid =>
      have known : "-emacs-pid" ∈ names := by decide
      simp [parse_eq, encode, word_lineOf known, remainder_lineOf known, pid?_ofInt]
  | windowSystemUnsupported =>
      have absent : space ∉ ofText "-window-system-unsupported" := by decide
      simp [parse_eq, encode, word_of_not_mem absent, same]
  | print text =>
      have known : "-print" ∈ names := by decide
      simp [parse_eq, encode, word_lineOf known, remainder_lineOf known, same]
  | printNoNewline text =>
      have known : "-print-nonl" ∈ names := by decide
      simp [parse_eq, encode, word_lineOf known, remainder_lineOf known, same]
  | error text =>
      have known : "-error" ∈ names := by decide
      simp [parse_eq, encode, word_lineOf known, remainder_lineOf known, same]
  | suspend =>
      have absent : space ∉ ofText "-suspend" := by decide
      simp [parse_eq, encode, word_of_not_mem absent, same]
  | unknown line =>
      have misread := proper.2.2
      by_cases named : word line = ofText "-emacs-pid"
      · rw [encode, parse_eq, if_pos named, (misread "-emacs-pid" (by decide) named).2]
      · have other : ∀ name ∈ names, word line ≠ ofText name :=
          fun name known same => named ((misread name known same).1 ▸ same)
        simp only [names, List.forall_mem_cons] at other
        simp [parse_eq, encode, other]

theorem newline_not_mem_lineOf {name : String} (known : name ∈ names) {arg : Bytes}
    (absent : newline ∉ arg) : newline ∉ lineOf name arg := by
  have all : ∀ name ∈ names, newline ∉ ofText name ++ [space] := by decide
  have before := all name known
  simp only [lineOf, List.mem_append, List.mem_cons, List.not_mem_nil, or_false, not_or] at before ⊢
  exact ⟨before.1, before.2, absent⟩

/-- The line of a reply is one line. -/
theorem newline_not_mem_encode {r : Reply} (proper : r.Proper) : newline ∉ r.encode := by
  cases r with
  | serverPid pid =>
      have digits : newline ∉ ofText (Decimal.ofInt pid.toInt) := by
        rw [Utf8.mem_ofText (by decide)]
        intro there
        exact absurd (Blank.isBlank_of_mem_ofInt there) (by decide)
      exact newline_not_mem_lineOf (by decide) digits
  | windowSystemUnsupported => decide
  | print text | printNoNewline text | error text =>
      exact newline_not_mem_lineOf (by decide) (Token.not_mem_escape text).2
  | suspend => decide
  | unknown line => exact proper.2.1

/-- The stream of replies that were written one after the other. -/
def stream (replies : List Reply) : Bytes := replies.flatMap fun r => r.encode ++ [newline]

theorem stream_eq (replies : List Reply) :
    stream replies = (replies.map encode).flatMap (· ++ [newline]) := by
  rw [stream, List.flatMap_map]

/-- Replies that were written are read again, the same ones in the same order, and nothing
is left over. No line carries two of the known directives, so none is taken for another,
whatever its text. -/
theorem stream_reads_back {replies : List Reply} (proper : ∀ r ∈ replies, r.Proper) :
    (Lines.complete (stream replies)).map parse = replies ∧ Lines.tail (stream replies) = [] ∧
      ∀ line : Bytes, ∀ name ∈ names, ∀ other ∈ names,
        (argument? name line).isSome → (argument? other line).isSome → name = other := by
  have lines : ∀ line ∈ replies.map encode, newline ∉ line := by
    intro line there
    obtain ⟨r, member, rfl⟩ := List.mem_map.mp there
    exact newline_not_mem_encode (proper r member)
  have each : ∀ r ∈ replies, parse r.encode = r := fun r member => parse_encode (proper r member)
  rw [stream_eq, Lines.complete_flatMap_concat lines, Lines.tail_flatMap_concat lines,
    List.map_map]
  refine ⟨?_, rfl, fun line name known other known' found found' =>
    eq_of_isSome_argument? known known' found found'⟩
  exact (List.map_congr_left each).trans (List.map_id replies)

/-- Texts that look like other directives, both ends of the range of process numbers, and
lines that are nearly a known directive. -/
theorem stream_of_similar_replies :
    let replies : List Reply :=
      [.print (ofText "-print-nonl x\n-suspend\n"), .printNoNewline [], .error [dash, 255],
        .serverPid Int32.minValue, .serverPid Int32.maxValue, .windowSystemUnsupported, .suspend,
        .unknown (ofText "-printer x"), .unknown (ofText " -print x"), .unknown [space],
        .unknown (ofText "-emacs-pid 2147483648")]
    (∀ r ∈ replies, r.Proper) ∧ (Lines.complete (stream replies)).map parse = replies := by
  intro replies
  have proper : ∀ r ∈ replies, r.Proper := by decide
  exact ⟨proper, (stream_reads_back proper).1⟩

end Reply

end EditorClient
