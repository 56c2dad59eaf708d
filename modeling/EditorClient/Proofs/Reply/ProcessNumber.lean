/-
# Which lines give a process number

A line gives the process number of the server if its argument begins with a numeral, not
counting blanks, whose value is a number of 32 bits. A line of that form with any other
argument gives none, and is reported as a message that is not known.
-/

import EditorClient.Proofs.Reply.RoundTrip
import EditorClient.Proofs.Text.Lossless
import EditorClient.Proofs.Text.Numeral

namespace EditorClient

open Bytes

namespace Decimal

variable {text : List Char} {n : Int}

theorem Numeral.ne_nil (numeral : Numeral text n) : text ≠ [] := by
  cases numeral with
  | unsigned written => exact written.1
  | positive => exact List.cons_ne_nil _ _
  | negative => exact List.cons_ne_nil _ _

/-- No part of a numeral is a blank. -/
theorem Numeral.solid (numeral : Numeral text n) : ∀ c ∈ text, Blank.isBlank c = false := by
  cases numeral with
  | unsigned written => exact fun c there => Blank.isBlank_of_isDigit (written.2 c there)
  | positive written =>
      rintro c (_ | ⟨_, there⟩)
      · decide
      · exact Blank.isBlank_of_isDigit (written.2 c there)
  | negative written =>
      rintro c (_ | ⟨_, there⟩)
      · decide
      · exact Blank.isBlank_of_isDigit (written.2 c there)

end Decimal

namespace Reply

/-- The line is of the form that gives a process number, with an argument or without. -/
def IsPidLine (line : Bytes) : Prop :=
  line = ofText "-emacs-pid" ∨ ∃ arg, line = ofText "-emacs-pid" ++ space :: arg

/-- The line gives this process number: the first word of its argument is a numeral for
it. -/
def Announces (line : Bytes) (pid : Int32) : Prop :=
  ∃ text word, line = ofText "-emacs-pid" ++ space :: ofText text ∧
    Blank.FirstWord text.toList word ∧ Decimal.Numeral word pid.toInt

variable {line arg : Bytes} {pid : Int32}

theorem isPidLine_iff : IsPidLine line ↔ word line = ofText "-emacs-pid" := by
  have solid : space ∉ ofText "-emacs-pid" := by decide
  constructor
  · rintro (rfl | ⟨arg, rfl⟩)
    · exact word_of_not_mem solid
    · exact word_append_cons solid arg
  · intro named
    by_cases divided : space ∈ line
    · obtain ⟨first, rest, rfl, absent⟩ := List.eq_append_cons_of_mem divided
      rw [word_append_cons absent] at named
      exact .inr ⟨rest, named ▸ rfl⟩
    · exact .inl ((word_of_not_mem divided).symm.trans named)

/-- A number is read from an argument if it is text whose first word is a numeral for it. -/
theorem pid?_eq_some_iff : pid? arg = some pid ↔
    ∃ text word, arg = ofText text ∧ Blank.FirstWord text.toList word ∧
      Decimal.Numeral word pid.toInt := by
  constructor
  · intro read
    obtain ⟨text, accepted, number⟩ := Option.bind_eq_some_iff.mp read
    have numeral := Decimal.int32?_eq_some_iff.mp number
    have first := (Blank.firstWord_iff numeral.ne_nil numeral.solid).mp rfl
    exact ⟨text, _, Utf8.strict?_eq_some_iff.mp accepted, first, numeral⟩
  · rintro ⟨text, word, rfl, first, numeral⟩
    apply Option.bind_eq_some_iff.mpr
    refine ⟨text, Utf8.strict?_ofText text, ?_⟩
    rw [(Blank.firstWord_iff numeral.ne_nil numeral.solid).mpr first]
    exact Decimal.int32?_eq_some_iff.mpr numeral

/-- How a line of the form is read. -/
theorem parse_of_isPidLine (form : IsPidLine line) :
    parse line = ((pid? (remainder line)).map Reply.serverPid).getD (.unknown line) := by
  rw [parse_eq, if_pos (isPidLine_iff.mp form)]
  cases pid? (remainder line) <;> rfl

/-- Only a line of the form is read as a process number. -/
theorem isPidLine_of_parse (read : parse line = .serverPid pid) : IsPidLine line := by
  by_contra other
  rw [parse_eq, if_neg (mt isPidLine_iff.mpr other)] at read
  split_ifs at read

theorem Announces.isPidLine (announces : Announces line pid) : IsPidLine line := by
  obtain ⟨text, _, rfl, -⟩ := announces
  exact .inr ⟨ofText text, rfl⟩

/-- The lines that give a process number are those that are read as one. -/
theorem parse_eq_serverPid_iff : parse line = .serverPid pid ↔ Announces line pid := by
  have solid : space ∉ ofText "-emacs-pid" := by decide
  constructor
  · intro read
    have form := isPidLine_of_parse read
    rw [parse_of_isPidLine form] at read
    have given : pid? (remainder line) = some pid := by
      cases found : pid? (remainder line) with
      | none =>
          rw [found] at read
          nomatch read
      | some _ =>
          rw [found] at read
          exact congrArg some (Reply.serverPid.inj read)
    rcases form with rfl | ⟨arg, rfl⟩
    · have nothing : pid? [] = none := by decide
      rw [remainder_of_not_mem solid, nothing] at given
      nomatch given
    · rw [remainder_append_cons solid] at given
      obtain ⟨text, word, rfl, first, numeral⟩ := pid?_eq_some_iff.mp given
      exact ⟨text, word, rfl, first, numeral⟩
  · intro announces
    rw [parse_of_isPidLine announces.isPidLine]
    obtain ⟨text, word, rfl, first, numeral⟩ := announces
    rw [remainder_append_cons solid, pid?_eq_some_iff.mpr ⟨text, word, rfl, first, numeral⟩]
    rfl

/-- A line of the form that gives no number is not known. -/
theorem parse_of_not_announces (form : IsPidLine line) (malformed : ∀ pid, ¬ Announces line pid) :
    parse line = .unknown line := by
  rw [parse_of_isPidLine form]
  cases read : pid? (remainder line) with
  | none => rfl
  | some pid =>
      have given : parse line = .serverPid pid := by
        rw [parse_of_isPidLine form, read]
        rfl
      exact absurd (parse_eq_serverPid_iff.mp given) (malformed pid)

end Reply

end EditorClient
