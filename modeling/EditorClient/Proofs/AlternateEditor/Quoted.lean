/-
# Words that come back from a command

A command is written by putting each word into double quotes, or leaving it as it is if it
has no spaces, with spaces between the words. `Spelled` is a word with the way in which it
is written, and `written` the command.

Splitting gives back what is written word by word: `Spelled.split_append` takes the first
word off, whatever follows it. It fails for one kind of word. The spaces that begin a word
in quotes are passed over together with the quote, and then the quote is not the last
delimiter any more and does not decide where the word ends. No word of a command begins
with a space, so such a word never comes back, and `words_written_iff` is exact.
-/

import EditorClient.Proofs.AlternateEditor.Rounds

namespace EditorClient.AlternateEditor

/-- A word that is to be written, in double quotes or as it is. -/
structure Spelled where
  word : List Char
  quoted : Bool
  some : word ≠ []
  quotable : '"' ∉ word
  /-- Without quotes a space would end the word. -/
  solid : quoted = false → ' ' ∉ word

/-- A word as it is written. -/
def Spelled.text (s : Spelled) : List Char :=
  if s.quoted then '"' :: s.word ++ ['"'] else s.word

/-- Words in a command, each with the number of spaces before it, and the spaces at the
end. -/
def written (pieces : List (Nat × Spelled)) (trailing : Nat) : List Char :=
  pieces.flatMap (fun piece => List.replicate piece.1 ' ' ++ piece.2.text) ++
    List.replicate trailing ' '

variable {text rest : List Char}

/-! ## Spaces -/

theorem terminator_space_cons (skipped : List Char) :
    terminator (' ' :: skipped) = terminator skipped := by
  cases skipped with
  | nil => rfl
  | cons c rest => rw [terminator, terminator, List.getLast?_cons_cons]

/-- A space in front changes nothing, since it is never the last delimiter but where it is
the only one. -/
theorem round_space_cons (text : List Char) : round (' ' :: text) = round text := by
  obtain ⟨skipped, body, delimiters, bare, rfl⟩ := exists_bare text
  have more : ∀ c ∈ ' ' :: skipped, isDelimiter c = true :=
    List.forall_mem_cons.mpr ⟨rfl, delimiters⟩
  rw [← List.cons_append, round_append_bare more bare, terminator_space_cons,
    round_append_bare delimiters bare]

theorem split_space_cons (text : List Char) : split (' ' :: text) = split text := by
  rw [(round_spec (' ' :: text)).split_eq, round_space_cons, ← (round_spec text).split_eq]

theorem split_spaces_append (number : Nat) (text : List Char) :
    split (List.replicate number ' ' ++ text) = split text := by
  induction number with
  | zero => rfl
  | succ number ih => rw [List.replicate_succ, List.cons_append, split_space_cons, ih]

/-! ## Words -/

/-- What can follow a word that is written as it is: nothing, or a space. -/
def Apart (rest : List Char) : Prop := ∀ c ∈ rest.head?, c = ' '

/-- Neither quotes nor spaces begin a word that does not begin with a space. -/
theorem Spelled.bare {s : Spelled} (begins : s.word.head? ≠ .some ' ') : Bare s.word := by
  intro c first
  have there : c ∈ s.word := List.mem_of_mem_head? first
  have noQuote : c ≠ '"' := fun quote => s.quotable (quote ▸ there)
  have noSpace : c ≠ ' ' := fun space => begins (space ▸ first)
  simp [isDelimiter, noQuote, noSpace]

/-- A word that does not begin with a space is taken off as it was written. A word in
quotes ends before its second quote, and any other before a space or with the text. -/
theorem Spelled.split_append (s : Spelled) (begins : s.word.head? ≠ .some ' ')
    (apart : s.quoted = false → Apart rest) : split (s.text ++ rest) = s.word :: split rest := by
  have bare := s.bare begins
  have counts : [s.word].filter (· ≠ []) = [s.word] := by simp [s.some]
  cases quotes : s.quoted with
  | true =>
      have opens : ∀ c ∈ ['"'], isDelimiter c = true := List.forall_mem_singleton.mpr rfl
      have goes : Round (['"'] ++ (s.word ++ terminator ['"'] :: rest)) s.word rest :=
        .more opens bare s.some s.quotable
      have shape : s.text ++ rest = ['"'] ++ (s.word ++ terminator ['"'] :: rest) := by
        rw [Spelled.text, if_pos quotes, List.append_assoc]
        rfl
      rw [shape, goes.split_eq, counts, List.singleton_append]
  | false =>
      have solid := s.solid quotes
      rw [Spelled.text, if_neg (ne_true_of_eq_false quotes)]
      cases rest with
      | nil =>
          have goes : Round ([] ++ s.word) s.word [] := .last nofun bare solid
          rw [List.append_nil, ← List.nil_append s.word, goes.split_eq, counts]
          rfl
      | cons c rest =>
          cases apart quotes c rfl
          have goes : Round ([] ++ (s.word ++ terminator [] :: rest)) s.word rest :=
            .more nofun bare s.some solid
          have shape : s.word ++ ' ' :: rest = [] ++ (s.word ++ terminator [] :: rest) := rfl
          rw [shape, goes.split_eq, counts, split_space_cons, List.singleton_append]

theorem apart_written {pieces : List (Nat × Spelled)} (apart : ∀ piece ∈ pieces, 0 < piece.1)
    (trailing : Nat) : Apart (written pieces trailing) := by
  have spaces {number : Nat} (positive : 0 < number) (rest : List Char) :
      Apart (List.replicate number ' ' ++ rest) := by
    obtain ⟨less, rfl⟩ := Nat.exists_eq_add_one_of_ne_zero (Nat.ne_of_gt positive)
    intro c first
    exact (Option.some.inj first).symm
  cases pieces with
  | nil =>
      cases trailing with
      | zero => exact nofun
      | succ trailing => exact fun _ first => (Option.some.inj first).symm
  | cons piece others =>
      rw [written, List.flatMap_cons, List.append_assoc, List.append_assoc]
      exact spaces (apart piece List.mem_cons_self) _

/-- Words none of which begins with a space come back. The induction takes off one word
after the other: the spaces behind it stay for what follows. -/
theorem split_written {pieces : List (Nat × Spelled)}
    (apart : ∀ piece ∈ pieces.tail, 0 < piece.1)
    (begin_ : ∀ piece ∈ pieces, piece.2.word.head? ≠ some ' ') (trailing : Nat) :
    split (written pieces trailing) = pieces.map (·.2.word) := by
  induction pieces with
  | nil =>
      have spaces : written [] trailing = List.replicate trailing ' ' ++ [] :=
        (List.append_nil _).symm
      rw [spaces, split_spaces_append, split_nil, List.map_nil]
  | cons piece others ih =>
      obtain ⟨here, later⟩ := List.forall_mem_cons.mp begin_
      have next := ih (fun other there => apart other (List.mem_of_mem_tail there)) later
      have shape : written (piece :: others) trailing =
          List.replicate piece.1 ' ' ++ (piece.2.text ++ written others trailing) := by
        rw [written, List.flatMap_cons, List.append_assoc, List.append_assoc]
        rfl
      rw [shape, split_spaces_append, List.map_cons, ← next]
      exact piece.2.split_append here fun _ => apart_written apart trailing

/-- Words that are written in double quotes, or as they are if they have no spaces, and
are kept apart by spaces come back unchanged exactly if none of them begins with a space. -/
theorem words_written_iff {pieces : List (Nat × Spelled)}
    (apart : ∀ piece ∈ pieces.tail, 0 < piece.1) (trailing : Nat) :
    words (String.ofList (written pieces trailing)) =
        pieces.map (fun piece => String.ofList piece.2.word) ↔
      ∀ piece ∈ pieces, piece.2.word.head? ≠ some ' ' := by
  have texts : pieces.map (fun piece => String.ofList piece.2.word) =
      (pieces.map (·.2.word)).map String.ofList := by
    rw [List.map_map]
    rfl
  rw [words, String.toList_ofList, texts]
  constructor
  · intro same piece there space
    have found : piece.2.word ∈ split (written pieces trailing) := by
      rw [List.map_injective_iff.mpr (fun _ _ => String.ofList_injective) same]
      exact List.mem_map_of_mem there
    have bare := forall_mem_split (fun _ _ _ goes _ => goes.bare) _ found
    exact absurd (bare ' ' space) (by decide)
  · intro begin_
    rw [split_written apart begin_]

/-- Words in quotes and without, with spaces inside, around and between them, and a quoted
word that looks like an option. -/
theorem words_written_of_mixed_spellings :
    let editor : Spelled := ⟨"/opt/my editor/ed".toList, true, by decide, by decide, by decide⟩
    let option : Spelled := ⟨"-n".toList, false, by decide, by decide, by decide⟩
    let text : Spelled := ⟨"-e  x ".toList, true, by decide, by decide, by decide⟩
    let pieces := [(2, editor), (1, option), (3, text)]
    String.ofList (written pieces 1) = "  \"/opt/my editor/ed\" -n   \"-e  x \" " ∧
      (∀ piece ∈ pieces.tail, 0 < piece.1) ∧
      words (String.ofList (written pieces 1)) = ["/opt/my editor/ed", "-n", "-e  x "] := by
  intro editor option text pieces
  have apart : ∀ piece ∈ pieces.tail, 0 < piece.1 := by decide
  have begin_ : ∀ piece ∈ pieces, piece.2.word.head? ≠ some ' ' := by decide
  exact ⟨rfl, apart, (words_written_iff apart 1).mpr begin_⟩

/-- A word in quotes that begins with a space is taken for one that does not, and that its
second quote does not end. -/
theorem opening_space_lost :
    let word : Spelled := ⟨" a".toList, true, by decide, by decide, by decide⟩
    String.ofList (written [(0, word)] 0) = "\" a\"" ∧ words "\" a\"" = ["a\""] ∧
      words (String.ofList (written [(0, word)] 0)) ≠ [String.ofList word.word] := by
  intro word
  have lost : words "\" a\"" = ["a\""] := by
    have goes : Round "\" a\"".toList "a\"".toList [] := round_spec "\" a\"".toList
    rw [words, goes.split_eq, split_nil]
    rfl
  have differs : ["a\""] ≠ [" a"] := by decide
  exact ⟨rfl, lost, fun same => differs (lost.symm.trans same)⟩

end EditorClient.AlternateEditor
