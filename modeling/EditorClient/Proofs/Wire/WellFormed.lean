/-
# Which byte strings are tokens

Reading accepts more than writing produces: a mark before any other letter and a mark at
the end are dropped, and a space is read as a space. The byte strings that are the token
of some value are the well-formed ones. They hold no space and no newline, do not begin
with a dash, and each of their ampersands, read from left to right, begins a pair.

The dash counts at the first place of a value only. So a token is well formed if it is
paired, or if it is a marked dash with something paired behind it. All other rules are
about a byte wherever it stands, and the inductions are on `Paired`.
-/

import EditorClient.Proofs.Wire.Token

namespace EditorClient.Token

open Bytes

/-- Whether a letter stands for a byte, wherever it is behind an ampersand. -/
def IsMark (m : UInt8) : Prop := m = ampersand ∨ m = spaceMark ∨ m = newlineMark

/-- Read from left to right, each ampersand begins a pair. -/
inductive Paired : Bytes → Prop
  | nothing : Paired []
  | plain {b : UInt8} {rest : Bytes} (unmarked : b ≠ ampersand) (later : Paired rest) :
      Paired (b :: rest)
  | pair {m : UInt8} {rest : Bytes} (mark : IsMark m) (later : Paired rest) :
      Paired (ampersand :: m :: rest)

/-- A byte string that the server takes for one token, and for no name, and in which
nothing would be dropped. -/
structure WellFormed (token : Bytes) : Prop where
  noSpace : space ∉ token
  noNewline : newline ∉ token
  noName : token.head? ≠ some dash
  /-- A marked dash may only stand at the start. -/
  pairs : Paired token ∨ ∃ rest, token = ampersand :: dash :: rest ∧ Paired rest

/-! ## What is written is well formed -/

theorem paired_escapeByte (b : UInt8) {rest : Bytes} (later : Paired rest) :
    Paired (escapeByte b ++ rest) := by
  unfold escapeByte
  split_ifs with isSpace isNewline isAmpersand
  · exact .pair (.inr (.inl rfl)) later
  · exact .pair (.inr (.inr rfl)) later
  · exact .pair (.inl rfl) later
  · exact .plain isAmpersand later

theorem paired_flatMap_escapeByte (value : Bytes) : Paired (value.flatMap escapeByte) := by
  induction value with
  | nil => exact .nothing
  | cons b rest ih =>
      rw [List.flatMap_cons]
      exact paired_escapeByte b ih

/-- Only a dash at the start is written in another way than a byte elsewhere. -/
theorem escape_of_head_ne_dash {value : Bytes} (plain : value.head? ≠ some dash) :
    escape value = value.flatMap escapeByte := by
  cases value with
  | nil => rfl
  | cons b rest =>
      have noDash : b ≠ dash := fun same => plain (congrArg some same)
      rw [escape, escapeFirst, if_neg noDash, List.flatMap_cons]

theorem escape_dash (rest : Bytes) :
    escape (dash :: rest) = ampersand :: dash :: rest.flatMap escapeByte := rfl

/-- The token of a value is well formed. -/
theorem wellFormed_escape (value : Bytes) : WellFormed (escape value) where
  noSpace := (not_mem_escape value).1
  noNewline := (not_mem_escape value).2
  noName := head_escape value
  pairs := by
    by_cases isDash : value.head? = some dash
    · right
      obtain ⟨rest, rfl⟩ : ∃ rest, value = dash :: rest := List.head?_eq_some_iff.mp isDash
      exact ⟨rest.flatMap escapeByte, escape_dash rest, paired_flatMap_escapeByte rest⟩
    · left
      rw [escape_of_head_ne_dash isDash]
      exact paired_flatMap_escapeByte value

/-! ## What is well formed is written back -/

/-- The byte for which a letter stands is written with that letter. -/
theorem escapeByte_unmark {m : UInt8} (mark : IsMark m) :
    escapeByte (unmark m) = [ampersand, m] := by
  rcases mark with rfl | rfl | rfl <;> rfl

theorem escapeByte_of_solid {b : UInt8} (solid : b ≠ space ∧ b ≠ newline)
    (unmarked : b ≠ ampersand) : escapeByte b = [b] := by
  rw [escapeByte, if_neg solid.1, if_neg solid.2, if_neg unmarked]

/-- Wherever no dash needs a mark, a paired byte string is what its value is written as. -/
theorem flatMap_escapeByte_unescape {token : Bytes} (paired : Paired token)
    (noSpace : space ∉ token) (noNewline : newline ∉ token) :
    (unescape token).flatMap escapeByte = token := by
  induction paired with
  | nothing => rfl
  | @plain b rest unmarked _ ih =>
      have solid : b ≠ space ∧ b ≠ newline :=
        ⟨fun same => noSpace (same ▸ List.mem_cons_self),
          fun same => noNewline (same ▸ List.mem_cons_self)⟩
      have others := ih (mt (List.mem_cons_of_mem b) noSpace) (mt (List.mem_cons_of_mem b) noNewline)
      rw [unescape_cons_of_ne unmarked, List.flatMap_cons, others, escapeByte_of_solid solid unmarked,
        List.singleton_append]
  | @pair m rest mark _ ih =>
      have others := ih (fun later => noSpace (List.mem_cons_of_mem _ (List.mem_cons_of_mem m later)))
        (fun later => noNewline (List.mem_cons_of_mem _ (List.mem_cons_of_mem m later)))
      show (unmark m :: unescape rest).flatMap escapeByte = _
      rw [List.flatMap_cons, others, escapeByte_unmark mark]
      rfl

/-- A paired byte string that does not begin with a dash has a value that does not either. -/
theorem head_unescape {token : Bytes} (paired : Paired token) (noName : token.head? ≠ some dash) :
    (unescape token).head? ≠ some dash := by
  cases paired with
  | nothing => nofun
  | plain unmarked _ => rwa [unescape_cons_of_ne unmarked]
  | @pair m rest mark _ =>
      show some (unmark m) ≠ some dash
      rcases mark with rfl | rfl | rfl <;> decide

/-- A well-formed byte string is the token of its value. -/
theorem escape_unescape {token : Bytes} (formed : WellFormed token) :
    escape (unescape token) = token := by
  rcases formed.pairs with paired | ⟨rest, rfl, paired⟩
  · rw [escape_of_head_ne_dash (head_unescape paired formed.noName)]
    exact flatMap_escapeByte_unescape paired formed.noSpace formed.noNewline
  · have noSpace : space ∉ rest := fun later =>
      formed.noSpace (List.mem_cons_of_mem _ (List.mem_cons_of_mem _ later))
    have noNewline : newline ∉ rest := fun later =>
      formed.noNewline (List.mem_cons_of_mem _ (List.mem_cons_of_mem _ later))
    show escape (dash :: unescape rest) = _
    rw [escape_dash, flatMap_escapeByte_unescape paired noSpace noNewline]

/-! ## Buffers -/

/-- Bytes that are not the first of their value. The induction is on the value, for any
place at which it may stand. -/
theorem foldl_escapeAt (value : Bytes) (place : Nat) (buffer : Array UInt8) :
    ((value.zipIdx (place + 1)).foldl
      (fun (written : Array UInt8) b => written ++ escapeAt b.2 b.1) buffer).toList =
        buffer.toList ++ value.flatMap escapeByte := by
  induction value generalizing place buffer with
  | nil => exact (List.append_nil _).symm
  | cons b rest ih =>
      have here : escapeAt (place + 1) b = escapeByte b := if_neg (Nat.succ_ne_zero place)
      rw [List.zipIdx_cons, List.foldl_cons, ih, here, Array.toList_appendList, List.flatMap_cons,
        List.append_assoc]

/-- What a buffer holds makes no difference to the token that is written at its end. -/
@[simp]
theorem toList_escapeInto (value : Bytes) (buffer : Array UInt8) :
    (escapeInto value buffer).toList = buffer.toList ++ escape value := by
  cases value with
  | nil => exact (List.append_nil _).symm
  | cons b rest =>
      have here : escapeAt 0 b = escapeFirst b := if_pos rfl
      rw [escapeInto, List.zipIdx_cons, List.foldl_cons, foldl_escapeAt, here,
        Array.toList_appendList, escape, List.append_assoc]

/-! ## The codec -/

/-- Writing takes the byte strings one to one to the well-formed ones, and reading takes
these back: each value has a well-formed token and is read from it, and of all byte
strings it is the well-formed ones that are written again as they were read. A token is
written at the end of a buffer as it is written alone. -/
theorem escape_onto_wellFormed :
    (∀ value, unescape (escape value) = value ∧ WellFormed (escape value)) ∧
    (∀ token, escape (unescape token) = token ↔ WellFormed token) ∧
    ∀ value (buffer : Array UInt8),
      (escapeInto value buffer).toList = buffer.toList ++ escape value := by
  refine ⟨fun value => ⟨unescape_escape value, wellFormed_escape value⟩, ?_, toList_escapeInto⟩
  intro token
  constructor
  · intro written
    rw [← written]
    exact wellFormed_escape (unescape token)
  · exact escape_unescape

/-- Two marks side by side stand for an ampersand, so that the letter behind them stands
for itself; a marked dash behind another byte is not written. -/
example : escape (unescape [ampersand, ampersand, newlineMark]) = [ampersand, ampersand, newlineMark] ∧
    escape (unescape [newlineMark, ampersand, dash]) = [newlineMark, dash] := by decide

end EditorClient.Token
