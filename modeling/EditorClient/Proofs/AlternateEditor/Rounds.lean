/-
# Splitting a command round by round

The words of a command are taken off its front one after the other. A round passes over
the delimiters at the front; the last of them decides what ends the word, and what ends it
is used up as well. `Round` says what a round can do with a text, `round` is the function
that does it, and `round_spec` ties the two together for every text.

So whatever is to be known of the words is shown for one round and carried along the
rounds by `Round.split_eq`. A round that finds no word has passed over nothing but
delimiters and is the last one. In all others the word ends with the text or before a
delimiter, and no more than that delimiter and those in front are lost.
-/

import EditorClient.AlternateEditor
import EditorClient.Proofs.Lines

namespace EditorClient.AlternateEditor

/-- Whether a character counts for something beyond keeping words apart. -/
def isPlain (c : Char) : Bool := !isDelimiter c

/-- A text that no delimiter begins. -/
def Bare (text : List Char) : Prop := ∀ c ∈ text.head?, isDelimiter c = false

/-- A round takes a word off a text and leaves a rest. -/
inductive Round : (text word rest : List Char) → Prop
  /-- Nothing ends the word before the text does. -/
  | last {skipped word : List Char} (delimiters : ∀ c ∈ skipped, isDelimiter c = true)
      (bare : Bare word) (runs : terminator skipped ∉ word) : Round (skipped ++ word) word []
  /-- The word ends where its terminator is found first. -/
  | more {skipped word rest : List Char} (delimiters : ∀ c ∈ skipped, isDelimiter c = true)
      (bare : Bare word) (some : word ≠ []) (runs : terminator skipped ∉ word) :
      Round (skipped ++ (word ++ terminator skipped :: rest)) word rest

/-- The word that a round takes off a text, and the rest that it leaves. -/
def round (text : List Char) : List Char × List Char :=
  let found := Pieces.cut (terminator (text.takeWhile isDelimiter)) (text.dropWhile isDelimiter)
  (found.1, found.2.getD [])

/-- What is left of a text after some rounds. -/
def left (text : List Char) : Nat → List Char
  | 0 => text
  | rounds + 1 => left (round text).2 rounds

variable {text word rest skipped body : List Char}

/-! ## One round -/

theorem terminator_cases (skipped : List Char) :
    terminator skipped = '"' ∨ terminator skipped = ' ' := by
  unfold terminator
  split
  · exact .inl rfl
  · exact .inr rfl

theorem isDelimiter_terminator (skipped : List Char) :
    isDelimiter (terminator skipped) = true := by
  rcases terminator_cases skipped with quote | blank
  · rw [quote]
    rfl
  · rw [blank]
    rfl

/-- A word that is not empty decides whether a text is bare that it begins. -/
theorem Bare.append (bare : Bare word) (some : word ≠ []) (rest : List Char) :
    Bare (word ++ rest) := by
  obtain ⟨c, others, rfl⟩ := List.exists_cons_of_ne_nil some
  exact bare

theorem Bare.of_append (bare : Bare (word ++ rest)) (some : word ≠ []) : Bare word := by
  obtain ⟨c, others, rfl⟩ := List.exists_cons_of_ne_nil some
  exact bare

/-- Every text is delimiters and then a text that none begins. -/
theorem exists_bare (text : List Char) :
    ∃ skipped body, (∀ c ∈ skipped, isDelimiter c = true) ∧ Bare body ∧ text = skipped ++ body := by
  refine ⟨text.takeWhile isDelimiter, text.dropWhile isDelimiter,
    fun _ there => List.mem_takeWhile_imp there, ?_, List.takeWhile_append_dropWhile.symm⟩
  intro c first
  have stops := List.head?_dropWhile_not isDelimiter text
  rw [first] at stops
  simpa using stops

/-- The delimiters in front are found, whatever follows them. -/
theorem takeWhile_append_bare (delimiters : ∀ c ∈ skipped, isDelimiter c = true)
    (bare : Bare body) : (skipped ++ body).takeWhile isDelimiter = skipped ∧
      (skipped ++ body).dropWhile isDelimiter = body := by
  rw [List.takeWhile_append_of_pos delimiters, List.dropWhile_append_of_pos delimiters]
  cases body with
  | nil => simp
  | cons c rest =>
      have stops : isDelimiter c = false := bare c rfl
      simp [stops]

theorem cut_append_bare (delimiters : ∀ c ∈ skipped, isDelimiter c = true) (bare : Bare body) :
    Pieces.cut (terminator ((skipped ++ body).takeWhile isDelimiter))
      ((skipped ++ body).dropWhile isDelimiter) = Pieces.cut (terminator skipped) body := by
  obtain ⟨front, behind⟩ := takeWhile_append_bare delimiters bare
  rw [front, behind]

theorem round_append_bare (delimiters : ∀ c ∈ skipped, isDelimiter c = true) (bare : Bare body) :
    round (skipped ++ body) = ((Pieces.cut (terminator skipped) body).1,
      (Pieces.cut (terminator skipped) body).2.getD []) := by
  rw [round, cut_append_bare delimiters bare]

/-- What `round` does is a round. A delimiter cannot be found at once behind the others,
so a word that is ended by one is not empty. -/
theorem round_spec (text : List Char) : Round text (round text).1 (round text).2 := by
  obtain ⟨skipped, body, delimiters, bare, rfl⟩ := exists_bare text
  rw [round_append_bare delimiters bare]
  by_cases found : terminator skipped ∈ body
  · obtain ⟨word, rest, rfl, runs⟩ := List.eq_append_cons_of_mem found
    have some : word ≠ [] := by
      rintro rfl
      have begins := bare (terminator skipped) rfl
      rw [isDelimiter_terminator] at begins
      nomatch begins
    rw [Pieces.cut_cons_of_not_mem runs]
    exact .more delimiters (bare.of_append some) some runs
  · rw [Pieces.cut_of_not_mem found]
    exact .last delimiters bare found

/-- Nothing else is a round. -/
theorem Round.eq_round (goes : Round text word rest) : round text = (word, rest) := by
  cases goes with
  | last delimiters bare runs =>
      rw [round_append_bare delimiters bare, Pieces.cut_of_not_mem runs]
      rfl
  | more delimiters bare some runs =>
      rw [round_append_bare delimiters (bare.append some _), Pieces.cut_cons_of_not_mem runs]
      rfl

/-- No delimiter begins the word of a round. -/
theorem Round.bare (goes : Round text word rest) : Bare word := by
  cases goes with
  | last delimiters bare runs => exact bare
  | more delimiters bare some runs => exact bare

/-- The word of a round does not hold what would have ended it. -/
theorem Round.free (goes : Round text word rest) : ' ' ∉ word ∨ '"' ∉ word := by
  have free {skipped : List Char} (runs : terminator skipped ∉ word) : ' ' ∉ word ∨ '"' ∉ word := by
    rcases terminator_cases skipped with quote | blank
    · exact .inr (quote ▸ runs)
    · exact .inl (blank ▸ runs)
  cases goes with
  | last delimiters bare runs => exact free runs
  | more delimiters bare some runs => exact free runs

/-- The rest is the end of the text. -/
theorem Round.suffix (goes : Round text word rest) : rest <:+ text := by
  cases goes with
  | last => exact List.nil_suffix
  | more =>
      exact (List.suffix_cons _ _).trans
        ((List.suffix_append _ _).trans (List.suffix_append _ _))

/-- A round uses something up, if there is anything. -/
theorem Round.shorter (goes : Round text word rest) (some : text ≠ []) :
    rest.length < text.length := by
  cases goes with
  | last => exact List.length_pos_of_ne_nil some
  | more =>
      simp only [List.length_append, List.length_cons]
      omega

/-- No plain character is lost. -/
theorem Round.filter_isPlain (goes : Round text word rest) :
    text.filter isPlain = word.filter isPlain ++ rest.filter isPlain := by
  have lost {skipped : List Char} (delimiters : ∀ c ∈ skipped, isDelimiter c = true) :
      skipped.filter isPlain = [] := by
    rw [List.filter_eq_nil_iff]
    intro c there
    simp [isPlain, delimiters c there]
  have ends (skipped : List Char) : ¬ isPlain (terminator skipped) = true := by
    simp [isPlain, isDelimiter_terminator]
  cases goes with
  | last delimiters bare runs =>
      rw [List.filter_append, lost delimiters, List.filter_nil, List.append_nil, List.nil_append]
  | more delimiters bare some runs =>
      rw [List.filter_append, lost delimiters, List.nil_append, List.filter_append,
        List.filter_cons_of_neg (ends _)]

/-! ## All rounds -/

/-- Rounds come to an end, since each leaves less. What holds of no text at all and goes
from the rest of a round to the text holds of every text. -/
@[elab_as_elim]
theorem rounds_induction {P : List Char → Prop} (nothing : P [])
    (next : ∀ text word rest, text ≠ [] → Round text word rest → P rest → P text)
    (text : List Char) : P text := by
  induction length : text.length using Nat.strongRecOn generalizing text with
  | ind size ih =>
      subst length
      by_cases empty : text = []
      · exact empty ▸ nothing
      · have goes := round_spec text
        exact next text _ _ empty goes (ih _ (goes.shorter empty) _ rfl)

theorem split_nil : split [] = [] := by
  rw [split]
  rfl

/-- Splitting is a round, whose word counts unless it is empty, and then splitting the
rest. -/
theorem Round.split_eq (goes : Round text word rest) :
    split text = [word].filter (· ≠ []) ++ split rest := by
  have takes := goes.eq_round
  rw [split]
  split
  case h_1 found cut =>
      rw [round, cut] at takes
      obtain ⟨rfl, rfl⟩ := Prod.mk.inj takes
      rw [Option.getD_none, split_nil, List.append_nil]
      by_cases empty : found = [] <;> simp [empty]
  case h_2 found behind cut =>
      rw [round, cut] at takes
      obtain ⟨rfl, rfl⟩ := Prod.mk.inj takes
      by_cases empty : found = [] <;> simp [empty]

/-- What holds of the word of every round that finds one holds of all words. -/
theorem forall_mem_split {P : List Char → Prop}
    (each : ∀ text word rest, Round text word rest → word ≠ [] → P word) :
    ∀ word ∈ split text, P word := by
  induction text using rounds_induction with
  | nothing =>
      rw [split_nil]
      exact nofun
  | next text word rest some goes ih =>
      intro found there
      rw [goes.split_eq] at there
      rcases List.mem_append.mp there with here | later
      · obtain ⟨same, nonempty⟩ := List.mem_filter.mp here
        cases List.mem_singleton.mp same
        exact each text word rest goes (of_decide_eq_true nonempty)
      · exact ih found later

/-- The words hold the plain characters of the text, each once and in order. -/
theorem filter_isPlain_split (text : List Char) :
    (split text).flatten.filter isPlain = text.filter isPlain := by
  induction text using rounds_induction with
  | nothing => rw [split_nil, List.flatten_nil]
  | next text word rest some goes ih =>
      have here : ([word].filter (· ≠ [])).flatten = word := by
        by_cases empty : word = [] <;> simp [empty]
      rw [goes.split_eq, List.flatten_append, here, List.filter_append, ih, goes.filter_isPlain]

/-- The rounds on a text, as many as it takes, and the words that they find. -/
theorem exists_rounds (text : List Char) :
    ∃ rounds ≤ text.length, left text rounds = [] ∧
      (∀ i < rounds, left text (i + 1) <:+ left text i ∧
        (left text (i + 1)).length < (left text i).length) ∧
      split text =
        ((List.range rounds).map fun i => (round (left text i)).1).filter (· ≠ []) := by
  induction text using rounds_induction with
  | nothing =>
      exact ⟨0, Nat.le_refl 0, rfl, fun _ before => absurd before (Nat.not_lt_zero _), split_nil⟩
  | next text word rest some goes ih =>
      obtain ⟨rounds, few, ends, shorter, found⟩ := ih
      have takes := goes.eq_round
      have onwards (i : Nat) : left text (i + 1) = left rest i := by rw [left, takes]
      refine ⟨rounds + 1, ?_, (onwards rounds).trans ends, ?_, ?_⟩
      · have := goes.shorter some
        omega
      · intro i before
        cases i with
        | zero =>
            rw [onwards 0]
            exact ⟨goes.suffix, goes.shorter some⟩
        | succ i =>
            rw [onwards, onwards]
            exact shorter i (Nat.lt_of_succ_lt_succ before)
      · have first : (round (left text 0)).1 = word := congrArg Prod.fst takes
        rw [goes.split_eq, found, List.range_succ_eq_map, List.map_cons, first, List.map_map,
          ← List.filter_append]
        simp only [Function.comp_def, onwards, List.singleton_append]

/-- Splitting a command comes to an end: each round leaves a shorter end of the text than
there was before it, until nothing is left. The words that the rounds find, without the
empty ones, are the words of the command. Each is free of spaces or free of double quotes,
and apart from these two characters they hold what the command holds, in its order. -/
theorem words_account_for_command (command : String) :
    (∃ rounds ≤ command.length, left command.toList rounds = [] ∧
      (∀ i < rounds, left command.toList (i + 1) <:+ left command.toList i ∧
        (left command.toList (i + 1)).length < (left command.toList i).length) ∧
      words command = (((List.range rounds).map fun i =>
        (round (left command.toList i)).1).filter (· ≠ [])).map String.ofList) ∧
      (∀ word ∈ words command, word ≠ "" ∧ (' ' ∉ word.toList ∨ '"' ∉ word.toList)) ∧
      ((words command).flatMap String.toList).filter isPlain =
        command.toList.filter isPlain := by
  obtain ⟨rounds, few, ends, shorter, found⟩ := exists_rounds command.toList
  refine ⟨⟨rounds, few, ends, shorter, congrArg (List.map String.ofList) found⟩, ?_, ?_⟩
  · intro word there
    obtain ⟨text, listed, rfl⟩ := List.mem_map.mp there
    have each := forall_mem_split (P := fun word => word ≠ [] ∧ (' ' ∉ word ∨ '"' ∉ word))
      (fun _ _ _ goes some => ⟨some, goes.free⟩) text listed
    rw [String.toList_ofList]
    exact ⟨fun empty => each.1 (String.ofList_eq_empty_iff.mp empty), each.2⟩
  · rw [words, List.flatMap_map]
    simp only [String.toList_ofList]
    rw [List.flatMap_id']
    exact filter_isPlain_split _

end EditorClient.AlternateEditor
