/-
# Tokens survive the wire

A byte of a value stands in its token as itself or as an ampersand with a letter
after it. Either form is read back as that byte whatever follows it, and neither
holds a space or a newline. So a value is read back from its token, and the token
can be told from its surroundings: it ends at the next space, it stays on its line,
and it is no name, for it does not begin with a dash.
-/

import EditorClient.Wire.Token
import Mathlib.Tactic.SplitIfs

namespace EditorClient.Token

open Bytes

/-- The forms in which a byte may stand in a token. -/
inductive Stands (b : UInt8) : Bytes → Prop
  | marked {m : UInt8} (read : unmark m = b) (solid : m ≠ space ∧ m ≠ newline) :
    Stands b [ampersand, m]
  | plain (solid : b ≠ space ∧ b ≠ newline) (unmarked : b ≠ ampersand) : Stands b [b]

theorem stands_escapeByte (b : UInt8) : Stands b (escapeByte b) := by
  unfold escapeByte
  split_ifs with isSpace isNewline isAmpersand
  · exact .marked isSpace.symm (by decide)
  · exact .marked isNewline.symm (by decide)
  · exact .marked isAmpersand.symm (by decide)
  · exact .plain ⟨isSpace, isNewline⟩ isAmpersand

theorem stands_escapeFirst (b : UInt8) : Stands b (escapeFirst b) := by
  unfold escapeFirst
  split_ifs with isDash
  · exact .marked isDash.symm (by decide)
  · exact stands_escapeByte b

theorem unescape_cons_of_ne {b : UInt8} (unmarked : b ≠ ampersand) (rest : Bytes) :
    unescape (b :: rest) = b :: unescape rest := by
  cases rest with
  | nil => simp [unescape, unmarked]
  | cons c rest => rw [unescape, if_neg unmarked]

/-- A form is read back as the byte that it stands for. -/
theorem unescape_append_of_stands {b : UInt8} {form : Bytes} (stands : Stands b form)
    (rest : Bytes) : unescape (form ++ rest) = b :: unescape rest := by
  cases stands with
  | marked read _ => exact congrArg (· :: unescape rest) read
  | plain _ unmarked => exact unescape_cons_of_ne unmarked rest

theorem not_mem_of_stands {b : UInt8} {form : Bytes} (stands : Stands b form) :
    space ∉ form ∧ newline ∉ form := by
  cases stands with
  | marked _ solid =>
      have other : space ≠ ampersand ∧ newline ≠ ampersand := by decide
      simp [solid.1.symm, solid.2.symm, other]
  | plain solid _ => simp [solid.1.symm, solid.2.symm]

theorem unescape_flatMap_escapeByte (value : Bytes) :
    unescape (value.flatMap escapeByte) = value := by
  induction value with
  | nil => rfl
  | cons b rest ih =>
      rw [List.flatMap_cons, unescape_append_of_stands (stands_escapeByte b), ih]

/-- A value is read back from its token. -/
@[simp]
theorem unescape_escape (value : Bytes) : unescape (escape value) = value := by
  cases value with
  | nil => rfl
  | cons b rest =>
      rw [escape, unescape_append_of_stands (stands_escapeFirst b), unescape_flatMap_escapeByte]

/-- A token holds nothing that would end it or its line. -/
theorem not_mem_escape (value : Bytes) : space ∉ escape value ∧ newline ∉ escape value := by
  cases value with
  | nil => exact ⟨List.not_mem_nil, List.not_mem_nil⟩
  | cons b rest =>
      obtain ⟨noSpace, noNewline⟩ := not_mem_of_stands (stands_escapeFirst b)
      simp only [escape, List.mem_append, List.mem_flatMap, not_or, not_exists, not_and]
      exact ⟨⟨noSpace, fun c _ => (not_mem_of_stands (stands_escapeByte c)).1⟩,
        ⟨noNewline, fun c _ => (not_mem_of_stands (stands_escapeByte c)).2⟩⟩

/-- A token is never taken for a name. -/
theorem head_escape (value : Bytes) : (escape value).head? ≠ some dash := by
  cases value with
  | nil => nofun
  | cons b rest =>
      have other : ampersand ≠ dash := by decide
      by_cases isDash : b = dash
      · simpa [escape, escapeFirst, isDash] using other
      · have form := stands_escapeByte b
        rw [escape, escapeFirst, if_neg isDash]
        generalize escapeByte b = written at form
        cases form with
        | marked _ _ => simpa using other
        | plain _ _ => simpa using isDash

end EditorClient.Token
