/-
# Positions among the arguments

Where nothing is evaluated, each argument is a position or a file, and its form alone
decides which. `Item.StandsFor` says what an argument stands for, and the items of a request
are the only list that has this for each argument in turn: none is left out, none is
altered, and whatever is not a position is opened as a file.

The form of a position is `Item.Position`. That it leaves no room for anything else is
seen from what one byte more does to a position: in front it always spoils it, and behind
it does so unless it makes the last number longer.
-/

import EditorClient.Proofs.Request.Contents

namespace EditorClient

open Bytes

namespace Item

variable {b : UInt8} {text item argument : Bytes}

/-! ## Numbers -/

theorem isDigit_iff : isDigit b = true ↔ b ∈ ofText "0123456789" := by
  have ten : ofText "0123456789" = [48, 49, 50, 51, 52, 53, 54, 55, 56, 57] := by decide
  simp only [ten, isDigit, Bool.and_eq_true, decide_eq_true_eq, List.mem_cons,
    List.not_mem_nil, or_false, UInt8.le_iff_toNat_le, ← UInt8.toNat_inj, UInt8.reduceToNat]
  omega

/-- A number is written with the ten digits and nothing else. -/
theorem digits_iff : Digits text ↔ text ≠ [] ∧ ∀ b ∈ text, b ∈ ofText "0123456789" := by
  simp only [Digits, isDigit_iff]

theorem Digits.exists_first (number : Digits text) :
    ∃ first rest, text = first :: rest ∧ isDigit first = true := by
  obtain ⟨first, rest, rfl⟩ := List.exists_cons_of_ne_nil number.1
  exact ⟨first, rest, rfl, number.2 first List.mem_cons_self⟩

theorem Digits.exists_last (number : Digits text) :
    ∃ front last, text = front ++ [last] ∧ isDigit last = true := by
  obtain ⟨front, last, rfl⟩ := (List.eq_nil_or_concat' text).resolve_left number.1
  exact ⟨front, last, rfl, number.2 last List.mem_concat_self⟩

theorem Digits.concat (number : Digits text) (digit : isDigit b = true) :
    Digits (text ++ [b]) := by
  refine ⟨List.append_ne_nil_of_left_ne_nil number.1 [b], ?_⟩
  intro other there
  rcases List.mem_append.mp there with before | last
  · exact number.2 other before
  · exact List.mem_singleton.mp last ▸ digit

/-! ## The ends of a position -/

/-- Behind the plus sign of a position stands a digit. -/
theorem Position.exists_first (place : Position item) :
    ∃ first rest, item = plus :: first :: rest ∧ isDigit first = true := by
  cases place with
  | line number =>
      obtain ⟨first, rest, rfl, digit⟩ := number.exists_first
      exact ⟨first, rest, rfl, digit⟩
  | @column _ column number =>
      obtain ⟨first, rest, rfl, digit⟩ := number.exists_first
      exact ⟨first, rest ++ colon :: column, rfl, digit⟩

/-- The last byte of a position is a digit. -/
theorem Position.exists_last (place : Position item) :
    ∃ front last, item = front ++ [last] ∧ isDigit last = true := by
  cases place with
  | line number =>
      obtain ⟨front, last, rfl, digit⟩ := number.exists_last
      exact ⟨plus :: front, last, rfl, digit⟩
  | @column line _ _ number =>
      obtain ⟨front, last, rfl, digit⟩ := number.exists_last
      refine ⟨plus :: line ++ colon :: front, last, ?_, digit⟩
      simp only [List.append_assoc, List.cons_append]

/-- With another byte in front, a position is none. -/
theorem Position.not_cons (place : Position item) (b : UInt8) : ¬ Position (b :: item) := by
  intro longer
  obtain ⟨first, rest, rfl, -⟩ := place.exists_first
  obtain ⟨second, _, same, digit⟩ := longer.exists_first
  -- the byte behind the new one would be a digit, but it is the old plus sign
  cases same
  exact absurd digit (by decide)

/-- With another byte behind, a position is one only if that byte is a digit. -/
theorem Position.concat_iff (place : Position item) :
    Position (item ++ [b]) ↔ isDigit b = true := by
  constructor
  · intro longer
    obtain ⟨front, last, same, digit⟩ := longer.exists_last
    obtain ⟨-, rfl⟩ := List.append_singleton_inj.mp same
    exact digit
  · intro digit
    cases place with
    | line number => exact .line (number.concat digit)
    | column number last =>
        rw [List.append_assoc, List.cons_append]
        exact .column number (last.concat digit)

/-! ## Arguments -/

/-- What an argument stands for where nothing is evaluated, with every byte of it. -/
inductive StandsFor (argument : Bytes) : Item → Prop
  | position (place : Position argument) : StandsFor argument (.position argument)
  | file (other : ¬ Position argument) : StandsFor argument (.file argument)

theorem classify_eq_iff {result : Item} :
    classify false argument = result ↔ StandsFor argument result := by
  rw [classify, if_neg Bool.false_ne_true]
  constructor
  · rintro rfl
    split
    case isTrue recognized => exact .position (isPosition_iff.mp recognized)
    case isFalse unrecognized => exact .file (mt isPosition_iff.mpr unrecognized)
  · intro stands
    cases stands with
    | position place => rw [if_pos (isPosition_iff.mpr place)]
    | file other => rw [if_neg (mt isPosition_iff.mp other)]

/-- Each argument gives one item, in order, and standard input gives none. -/
theorem all_eq_iff {c : Config} {input : Bytes} {items : List Item} (visits : c.eval = false) :
    all c input = items ↔ List.Forall₂ StandsFor c.items items := by
  have arguments : sources c input = c.items :=
    if_neg fun fromInput => Bool.false_ne_true (visits ▸ fromInput.1)
  rw [all_eq, arguments, visits, ← List.forall₂_eq_eq_eq, List.forall₂_map_left_iff]
  simp only [classify_eq_iff]

/-- Positions are recognized exactly. An argument is taken for one if it is a plus sign and
a number, and perhaps a colon and another number, where a number is one or more of the
ten digits. So a byte in front of it always makes it something else, and a byte behind it
does unless it is a digit. Where nothing is evaluated the items are these arguments as
positions and all the others as files, in order and byte for byte. -/
theorem positions_recognized_exactly :
    (∀ text, Digits text ↔ text ≠ [] ∧ ∀ b ∈ text, b ∈ ofText "0123456789") ∧
      (∀ item, isPosition item = true ↔ Position item) ∧
      (∀ item b, Position item →
        ¬ Position (b :: item) ∧ (Position (item ++ [b]) ↔ b ∈ ofText "0123456789")) ∧
      ∀ (c : Config) (input : Bytes) (items : List Item), c.eval = false →
        (all c input = items ↔ List.Forall₂ StandsFor c.items items) :=
  ⟨fun _ => digits_iff, fun _ => isPosition_iff,
    fun _ b place => ⟨place.not_cons b, place.concat_iff.trans isDigit_iff⟩,
    fun _ _ _ => all_eq_iff⟩

/-- Two positions, and names that only look like one: with nothing in place of a number,
with a colon too many, with signs, letters or blanks, and with digits that are not ASCII. -/
theorem positions_recognized_among_lookalikes :
    let places := ["+12:3", "+007"].map ofText
    let names := [plus, 178] :: ["", "+", "12", "+12:", "+:3", "+1:2:3", "+1::2", "++1", "+-1",
      "+1:+2", "+x", "+1x", " +1", "+1\n", "+\u0661"].map ofText
    let c := { Request.remoteVisit with items := places ++ names }
    let items := places.map .position ++ names.map .file
    c.eval = false ∧ all c [] = items ∧ List.Forall₂ StandsFor c.items items ∧
      ∀ place ∈ places, Position place ∧ ¬ Position (space :: place) ∧
        ¬ Position (place ++ [newline]) := by
  intro places names c items
  obtain ⟨-, recognized, ends, classified⟩ := positions_recognized_exactly
  have read : all c [] = items := by decide +kernel
  have both : ∀ place ∈ places, isPosition place = true := by decide +kernel
  refine ⟨rfl, read, (classified c [] items rfl).mp read, ?_⟩
  intro place there
  have position : Position place := (recognized place).mp (both place there)
  have blank : newline ∉ ofText "0123456789" := by decide
  exact ⟨position, (ends place space position).1, mt (ends place newline position).2.mp blank⟩

end Item

end EditorClient
