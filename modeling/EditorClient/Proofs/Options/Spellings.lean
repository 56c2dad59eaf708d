/-
# One option, many spellings

A setting can be given by its long name after two dashes or after one, by a short form of
the name that is still clear, or by its letter, with the value in the same argument or in
the next. A row of letters is a short way to write an argument for each of them.

In a place where options can be given these are all the same, whatever the value looks
like and whatever stands around them. In any other place no two of them are: after the end
of options they are items as they stand, and after an option that lacks its value the first
argument is that value.
-/

import EditorClient.Proofs.Options.Composition
import Mathlib.Data.List.Infix

namespace EditorClient.Options

open Bytes

variable {before args more : List Bytes} {setting : Setting} {value : Bytes}

/-! ## Long names -/

/-- The beginning of a long name means nothing, or it means the option with that name. -/
theorem ofLongName?_begins :
    ∀ entry ∈ OptionKind.longNames, ∀ short ∈ (ofText entry.1).inits,
      OptionKind.ofLongName? short = none ∨ OptionKind.ofLongName? short = some entry.2 := by
  decide +kernel

/-- A long name is longer than a letter and does not begin with a dash. -/
theorem longName_word :
    ∀ entry ∈ OptionKind.longNames,
      1 < (ofText entry.1).length ∧ (ofText entry.1).head? ≠ some dash ∧
        OptionKind.ofFullName? (ofText entry.1) = some entry.2 := by
  decide +kernel

theorem ofLongName?_nil : OptionKind.ofLongName? [] = none := by decide +kernel

theorem ofLetter?_dash : OptionKind.ofLetter? dash = none := by decide

/-! ## Arguments after one dash -/

variable {b : UInt8} {rest : Bytes}

theorem ne_dash_of_letter {kind : OptionKind} (means : OptionKind.ofLetter? b = some kind) :
    b ≠ dash := by
  rintro rfl
  exact nomatch ofLetter?_dash.symm.trans means

theorem read_short (other : b ≠ dash) (rest : Bytes) :
    Argument.read (dash :: b :: rest) = Argument.readShort (b :: rest) := by
  have notEnd : dash :: b :: rest ≠ [dash, dash] := by
    intro same
    exact other (List.head_eq_of_cons_eq (List.tail_eq_of_cons_eq same))
  rw [Argument.read, if_neg notEnd, if_neg (not_not_intro rfl), if_neg other]

/-- Letters are read as such unless they are a long name. -/
theorem read_letters (other : b ≠ dash)
    (free : rest ≠ [] → OptionKind.ofFullName? (Pieces.cut equals (b :: rest)).1 = none) :
    Argument.read (dash :: b :: rest) = Argument.readLetters (b :: rest) (b :: rest) := by
  rw [read_short other, Argument.readShort, if_neg]
  rintro ⟨several, named⟩
  have given : rest ≠ [] := by
    rintro rfl
    exact absurd several (by simp)
  rw [free given] at named
  nomatch named

/-- A long name can stand after one dash as well, and comes before the letters. -/
theorem read_onceDashed {name : String} {kind : OptionKind}
    (named : (name, kind) ∈ OptionKind.longNames) (rest : Bytes)
    (cut : (Pieces.cut equals (ofText name ++ rest)).1 = ofText name) :
    Argument.read (dash :: (ofText name ++ rest)) = Argument.readLong (ofText name ++ rest) := by
  obtain ⟨several, word, full⟩ := longName_word _ named
  dsimp only at several word full
  generalize ofText name = letters at *
  cases letters with
  | nil => exact absurd several (by simp)
  | cons b others =>
      have other : b ≠ dash := fun same => word (congrArg some same)
      have whole : 1 < (b :: others ++ rest).length := by
        rw [List.length_append]
        omega
      rw [List.cons_append] at whole cut ⊢
      rw [read_short other, Argument.readShort, cut, full, if_pos ⟨whole, rfl⟩]

/-! ## Spellings of a setting -/

/-- The arguments that give a setting a value: its long name, or the beginning of it if that
means anything, after two dashes; its long name after one dash; or its letter, behind which
a value must not make up a long name. -/
inductive Spells (setting : Setting) (value : Bytes) : List Bytes → Prop
  | assigned {name : String} {short : Bytes}
      (named : (name, .setting setting) ∈ OptionKind.longNames)
      (begins : short <+: ofText name) (known : OptionKind.ofLongName? short ≠ none) :
      Spells setting value [[dash, dash] ++ (short ++ equals :: value)]
  | followed {name : String} {short : Bytes}
      (named : (name, .setting setting) ∈ OptionKind.longNames)
      (begins : short <+: ofText name) (known : OptionKind.ofLongName? short ≠ none) :
      Spells setting value [[dash, dash] ++ short, value]
  | onceAssigned {name : String} (named : (name, .setting setting) ∈ OptionKind.longNames) :
      Spells setting value [dash :: (ofText name ++ equals :: value)]
  | onceFollowed {name : String} (named : (name, .setting setting) ∈ OptionKind.longNames) :
      Spells setting value [dash :: ofText name, value]
  | letter {b : UInt8} (means : OptionKind.ofLetter? b = some (.setting setting)) :
      Spells setting value [[dash, b], value]
  | attached {b : UInt8} (means : OptionKind.ofLetter? b = some (.setting setting))
      (given : value ≠ [])
      (free : OptionKind.ofFullName? (Pieces.cut equals (b :: value)).1 = none) :
      Spells setting value [dash :: b :: value]

theorem begins_cases {name : String} {short : Bytes} {kind : OptionKind}
    (named : (name, kind) ∈ OptionKind.longNames) (begins : short <+: ofText name)
    (known : OptionKind.ofLongName? short ≠ none) :
    OptionKind.ofLongName? short = some kind ∧ short ≠ [] ∧ equals ∉ short := by
  have means : OptionKind.ofLongName? short = some kind :=
    (ofLongName?_begins _ named short ((List.mem_inits _ _).mpr begins)).resolve_left known
  refine ⟨means, ?_, fun there => (longName_uncut _ named).2 (begins.mem there)⟩
  rintro rfl
  exact known ofLongName?_nil

theorem readLetters_setting (means : OptionKind.ofLetter? b = some (.setting setting))
    (body : Bytes) :
    Argument.readLetters body [b] =
      .expects [] setting ("-" ++ String.singleton (Char.ofNat b.toNat)) := by
  unfold Argument.readLetters
  simp only [means]

theorem readLetters_attached (means : OptionKind.ofLetter? b = some (.setting setting))
    (given : value ≠ []) (body : Bytes) :
    Argument.readLetters body (b :: value) = .assigns [] setting value := by
  obtain ⟨first, others, rfl⟩ := List.exists_cons_of_ne_nil given
  unfold Argument.readLetters
  simp only [means]

section

variable {arg : Bytes}

theorem steps_of_assigns (read : Argument.read arg = .assigns [] setting value) (said : Options) :
    (Progress.ready said).steps [arg] = Progress.set said setting value := by
  rw [Progress.steps_cons, Progress.step, read, Progress.hear, Progress.steps_nil]
  exact congrArg (Progress.set · setting value) (append_empty said)

theorem steps_of_expects {option : String} (read : Argument.read arg = .expects [] setting option)
    (value : Bytes) (said : Options) :
    (Progress.ready said).steps [arg, value] = Progress.set said setting value := by
  rw [Progress.steps_cons, Progress.step, read, Progress.hear, Progress.steps_cons,
    Progress.steps_nil, Progress.step]
  exact congrArg (Progress.set · setting value) (append_empty said)

end

/-- Every spelling gives the setting the value and does nothing else. -/
theorem steps_of_spells (spells : Spells setting value args) (said : Options) :
    (Progress.ready said).steps args = Progress.set said setting value := by
  cases spells with
  | assigned named begins known =>
      obtain ⟨means, -, uncut⟩ := begins_cases named begins known
      apply steps_of_assigns
      rw [read_long _ (List.append_ne_nil_of_right_ne_nil _ (List.cons_ne_nil _ _)),
        readLong_assigns means uncut]
  | followed named begins known =>
      obtain ⟨means, given, uncut⟩ := begins_cases named begins known
      apply steps_of_expects
      rw [read_long _ given, readLong_expects means uncut]
  | @onceAssigned name named =>
      have uncut : equals ∉ ofText name := (longName_uncut _ named).2
      apply steps_of_assigns
      rw [read_onceDashed named _ (by rw [Pieces.cut_cons_of_not_mem uncut]),
        readLong_assigns (ofLongName?_full _ named) uncut]
  | @onceFollowed name named =>
      have uncut : equals ∉ ofText name := (longName_uncut _ named).2
      have read := read_onceDashed named [] (by rw [List.append_nil, Pieces.cut_of_not_mem uncut])
      rw [List.append_nil] at read
      apply steps_of_expects
      rw [read, readLong_expects (ofLongName?_full _ named) uncut]
  | letter means =>
      apply steps_of_expects
      rw [read_letters (ne_dash_of_letter means) (absurd rfl), readLetters_setting means]
  | attached means given free =>
      apply steps_of_assigns
      rw [read_letters (ne_dash_of_letter means) fun _ => free, readLetters_attached means given]

/-! ## Where no options can be given -/

/-- A value can be read off the setting that takes it, and off the error of a timeout that
is no number. -/
theorem set_tells (untimed : Duration.read? (Utf8.lossy value) = none) (said : Options)
    (setting : Setting) :
    Progress.set said setting value = .failed (.invalidTimeout (Utf8.lossy value)) ∨
      ∃ told bytes, Progress.set said setting value = .ready told ∧
        told.value? setting = some bytes ∧ Utf8.lossy bytes = Utf8.lossy value := by
  cases setting with
  | timeout =>
      left
      unfold Progress.set ofSetting
      dsimp only
      rw [untimed]
  | socketName | serverFile => exact .inr ⟨_, value, rfl, rfl, rfl⟩
  | _ => exact .inr ⟨_, ofText (Utf8.lossy value), rfl, rfl, Utf8.lossy_ofText _⟩

/-- Where no options can be given, arguments with different texts that are no numbers are
told apart: the first is an item or the value of the option before it. -/
theorem parse_apart (closed : ¬ TakesOptions before) {one other : Bytes} {silent : Options}
    (differ : Utf8.lossy one ≠ Utf8.lossy other)
    (untimed : Duration.read? (Utf8.lossy one) = none)
    (untimedOther : Duration.read? (Utf8.lossy other) = none)
    (ready : progress more = .ready silent)
    (unset : ∀ setting, silent.value? setting = none) :
    parse (before ++ [one]) ≠ parse (before ++ other :: more) := by
  intro same
  cases ends : progress before with
  | ready said => exact closed (takesOptions_iff.mpr (.inl ⟨said, ends⟩))
  | failed error => exact closed (takesOptions_iff.mpr (.inr ⟨error, ends⟩))
  | ended said =>
      rw [parse_append_of_ended ends, parse_append_of_ended ends] at same
      have items : said.items ++ [one] = said.items ++ other :: more :=
        congrArg items (Except.ok.inj same)
      rw [List.append_right_inj] at items
      exact differ (congrArg Utf8.lossy (List.head_eq_of_cons_eq items))
  | waiting said setting option =>
      -- The first argument is the value, and `more` says nothing about the same setting.
      rw [parse_eq, parse_eq, progress_append, progress_append, ends, Progress.steps_cons,
        Progress.steps_cons, Progress.steps_nil, Progress.step, Progress.step] at same
      rcases set_tells untimed said setting with failed | ⟨told, bytes, here, value, text⟩
      · rw [failed] at same
        rcases set_tells untimedOther said setting with failed | ⟨told, -, here, -⟩
        · rw [failed, Progress.steps_failed] at same
          exact differ (OptionError.invalidTimeout.inj (Except.error.inj same))
        · rw [here, steps_ready, ready] at same
          cases same
      · rw [here] at same
        rcases set_tells untimedOther said setting with
          failed | ⟨toldOther, bytesOther, here, valueOther, textOther⟩
        · rw [failed, Progress.steps_failed] at same
          cases same
        · rw [here, steps_ready, ready] at same
          have values := congrArg (value? · setting) (Except.ok.inj same)
          rw [value?_append, unset, Option.none_or, value, valueOther] at values
          rw [← text, ← textOther, Option.some.inj values] at differ
          exact differ rfl

/-- All spellings of a setting with its value agree in the places where options can be
given, and only there: whatever the value is and whatever follows, they say the same after
arguments that reach no end of options and leave no option without its value. -/
theorem spellings_agree_iff (before : List Bytes) :
    (∀ setting value one other after, Spells setting value one → Spells setting value other →
      parse (before ++ one ++ after) = parse (before ++ other ++ after)) ↔
    TakesOptions before := by
  constructor
  · intro agree
    by_contra closed
    have named : ("display", OptionKind.setting .display) ∈ OptionKind.longNames := by decide
    have twice : Spells .display [] [ofText "--display="] :=
      .assigned named (List.prefix_refl _) (by rw [ofLongName?_full _ named]; exact nofun)
    have once : Spells .display [] [ofText "-display="] := .onceAssigned named
    have same := agree .display [] _ _ [] twice once
    rw [List.append_nil, List.append_nil] at same
    exact parse_apart closed (by decide +kernel) (by decide +kernel) (by decide +kernel) rfl
      (fun setting => by cases setting <;> rfl) same
  · intro takes setting value one other after first second
    rw [List.append_assoc, List.append_assoc]
    apply parse_append_congr takes
    intro said
    rw [Progress.steps_append, Progress.steps_append, steps_of_spells first,
      steps_of_spells second]

/-- Behind two dashes the spellings of a setting are items, and behind an option without
its value the first argument is that value. -/
theorem spellings_differ_elsewhere :
    let one := [ofText "--display=x"]
    let other := [ofText "-d", ofText "x"]
    Spells .display (ofText "x") one ∧ Spells .display (ofText "x") other ∧
      parse ([[dash, dash]] ++ one ++ []) ≠ parse ([[dash, dash]] ++ other ++ []) ∧
      parse ([ofText "-s"] ++ one ++ []) ≠ parse ([ofText "-s"] ++ other ++ []) := by
  intro one other
  have named : ("display", OptionKind.setting .display) ∈ OptionKind.longNames := by decide
  refine ⟨?_, .letter rfl, ?_, ?_⟩
  · exact .assigned named (List.prefix_refl _) (by rw [ofLongName?_full _ named]; exact nofun)
  · have items : parse ([[dash, dash]] ++ one ++ []) = .ok { items := one } := rfl
    have others : parse ([[dash, dash]] ++ other ++ []) = .ok { items := other } := rfl
    rw [items, others]
    intro same
    exact absurd (congrArg Options.items (Except.ok.inj same)) (by decide)
  · have named : parse ([ofText "-s"] ++ one ++ []) =
        .ok { socketName := some (ofText "--display=x") } := rfl
    have letter : parse ([ofText "-s"] ++ other ++ []) =
        .ok { socketName := some (ofText "-d"), items := [ofText "x"] } := rfl
    rw [named, letter]
    intro same
    exact absurd (congrArg Options.items (Except.ok.inj same)) (by decide)

/-- A value that looks like an option and contains an equals sign, before the end of
options. -/
theorem spellings_agree_for_misleading_value :
    let before := [ofText "-q", ofText "f"]
    let value := ofText "-c=1"
    let after := [[dash, dash], value]
    TakesOptions before ∧ Spells .tramp value [ofText "--tr=-c=1"] ∧
      Spells .tramp value [ofText "-tramp", value] ∧ Spells .tramp value [ofText "-T-c=1"] ∧
      parse (before ++ [ofText "--tr=-c=1"] ++ after) =
        parse (before ++ [ofText "-tramp", value] ++ after) ∧
      parse (before ++ [ofText "--tr=-c=1"] ++ after) =
        parse (before ++ [ofText "-T-c=1"] ++ after) := by
  intro before value after
  have named : ("tramp", OptionKind.setting .tramp) ∈ OptionKind.longNames := by decide
  have takes : TakesOptions before := takesOptions_iff.mpr (.inl ⟨_, rfl⟩)
  have short : Spells .tramp value [ofText "--tr=-c=1"] :=
    .assigned named (by decide : ofText "tr" <+: ofText "tramp") (by decide +kernel)
  have once : Spells .tramp value [ofText "-tramp", value] := .onceFollowed named
  have attached : Spells .tramp value [ofText "-T-c=1"] :=
    .attached rfl (by decide) (by decide +kernel)
  have agree := (spellings_agree_iff before).mpr takes .tramp value
  exact ⟨takes, short, once, attached, agree _ _ after short once,
    agree _ _ after short attached⟩

/-! ## Rows of letters -/

/-- Letters of switches, and behind them perhaps the letter of a setting with a value. None
of it makes up a long name. -/
structure Cluster (word tail : Bytes) : Prop where
  given : word ≠ []
  switches : ∀ b ∈ word, ∃ s, OptionKind.ofLetter? b = some (.switch s)
  setting : tail = [] ∨
    ∃ b value setting, tail = b :: value ∧ OptionKind.ofLetter? b = some (.setting setting)
  free : OptionKind.ofFullName? (Pieces.cut equals (word ++ tail)).1 = none
  tailFree : OptionKind.ofFullName? (Pieces.cut equals tail).1 = none

theorem cluster_of_two : Cluster (ofText "nq") [] where
  given := by decide
  switches := by
    rintro b (_ | ⟨_, _ | ⟨_, ⟨⟩⟩⟩)
    · exact ⟨.noWait, rfl⟩
    · exact ⟨.quiet, rfl⟩
  setting := .inl rfl
  free := by decide +kernel
  tailFree := by decide +kernel

/-- An argument for each letter of a switch, and one for the setting with what is behind it. -/
def lettersApart (word tail : Bytes) : List Bytes :=
  word.map (fun b => [dash, b]) ++ if tail = [] then [] else [dash :: tail]

variable {word tail : Bytes}

/-- A switch that is given first is said first. -/
theorem hear_give {heard : Argument} (option : IsOption heard) (s : Switch) (said : Options)
    (arg : Bytes) :
    Progress.hear said arg (heard.give s) = Progress.hear (said ++ ofSwitch s) arg heard := by
  cases heard with
  | item | endOfOptions => exact option.elim
  | refused error => rfl
  | switches given => exact congrArg Progress.ready (append_assoc ..).symm
  | assigns given setting value =>
      exact congrArg (Progress.set · setting value) (append_assoc ..).symm
  | expects given setting shown =>
      exact congrArg (Progress.waiting · setting shown) (append_assoc ..).symm

/-- A row of switches says what its letters say one by one, and then what is behind them.
The induction is on the row. -/
theorem hear_letters (switches : ∀ b ∈ word, ∃ s, OptionKind.ofLetter? b = some (.switch s))
    (body tail arg : Bytes) (said : Options) :
    ∃ told, (Progress.ready said).steps (word.map fun b => [dash, b]) = .ready told ∧
      Progress.hear said arg (Argument.readLetters body (word ++ tail)) =
        Progress.hear told arg (Argument.readLetters body tail) := by
  induction word generalizing said with
  | nil => exact ⟨said, rfl, rfl⟩
  | cons b rest ih =>
      obtain ⟨s, means⟩ := switches b List.mem_cons_self
      have alone : Argument.read [dash, b] = .switches [s] := by
        rw [read_letters (ne_dash_of_letter means) (absurd rfl)]
        unfold Argument.readLetters
        simp only [means]
        rfl
      have heard : (Progress.ready said).step [dash, b] = .ready (said ++ ofSwitch s) := by
        rw [Progress.step, alone, Progress.hear]
        exact congrArg (fun o => Progress.ready (said ++ o)) (append_empty _)
      obtain ⟨told, separate, together⟩ :=
        ih (fun other there => switches other (List.mem_cons_of_mem b there)) (said ++ ofSwitch s)
      refine ⟨told, ?_, ?_⟩
      · rw [List.map_cons, Progress.steps_cons, heard, separate]
      · rw [← together, ← hear_give (isOption_readLetters _ _), List.cons_append]
        conv_lhs => unfold Argument.readLetters
        simp only [means]

/-- The letter of a setting means the same in any row. -/
theorem hear_setting {b : UInt8} (means : OptionKind.ofLetter? b = some (.setting setting))
    (value one other arg argOther : Bytes) (said : Options) :
    Progress.hear said arg (Argument.readLetters one (b :: value)) =
      Progress.hear said argOther (Argument.readLetters other (b :: value)) := by
  by_cases given : value = []
  · rw [given, readLetters_setting means, readLetters_setting means]
    rfl
  · rw [readLetters_attached means given, readLetters_attached means given]
    rfl

theorem steps_cluster (cluster : Cluster word tail) (said : Options) :
    (Progress.ready said).steps [dash :: (word ++ tail)] =
      (Progress.ready said).steps (lettersApart word tail) := by
  obtain ⟨told, separate, together⟩ :=
    hear_letters cluster.switches (word ++ tail) tail (dash :: (word ++ tail)) said
  have whole : (Progress.ready said).step (dash :: (word ++ tail)) =
      Progress.hear told (dash :: (word ++ tail)) (Argument.readLetters (word ++ tail) tail) := by
    rw [← together, Progress.step]
    obtain ⟨b, rest, rfl⟩ := List.exists_cons_of_ne_nil cluster.given
    obtain ⟨s, means⟩ := cluster.switches b List.mem_cons_self
    have free : OptionKind.ofFullName? (Pieces.cut equals (b :: (rest ++ tail))).1 = none :=
      cluster.free
    rw [List.cons_append, read_letters (ne_dash_of_letter means) fun _ => free]
  rw [Progress.steps_cons, Progress.steps_nil, whole, lettersApart, Progress.steps_append, separate]
  rcases cluster.setting with rfl | ⟨b, value, setting, rfl, means⟩
  · exact congrArg Progress.ready (append_empty told)
  · rw [if_neg (List.cons_ne_nil b value), Progress.steps_cons, Progress.steps_nil, Progress.step,
      read_letters (ne_dash_of_letter means) fun _ => cluster.tailFree]
    exact hear_setting means ..

/-- A row of letters says the same as its letters one by one in the places where options can
be given, and only there. That is so with a value behind the last letter, with one in the
next argument, and with none. -/
theorem clusters_agree_iff (before : List Bytes) :
    (∀ word tail after, Cluster word tail →
      parse (before ++ [dash :: (word ++ tail)] ++ after) =
        parse (before ++ lettersApart word tail ++ after)) ↔
    TakesOptions before := by
  constructor
  · intro agree
    by_contra closed
    have same : parse (before ++ [ofText "-nq"]) =
        parse (before ++ ofText "-n" :: [ofText "-q"]) := by
      have same := agree _ _ [] cluster_of_two
      rw [List.append_nil, List.append_nil, List.append_nil] at same
      exact same
    exact parse_apart closed (by decide +kernel) (by decide +kernel) (by decide +kernel) rfl
      (fun setting => by cases setting <;> rfl) same
  · intro takes word tail after cluster
    rw [List.append_assoc, List.append_assoc]
    apply parse_append_congr takes
    intro said
    rw [Progress.steps_append, Progress.steps_append, steps_cluster cluster]

/-- Behind two dashes rows of letters are items, and behind an option without its value the
first argument is that value. -/
theorem clusters_differ_elsewhere :
    let row := [ofText "-nq"]
    let apart := lettersApart (ofText "nq") []
    Cluster (ofText "nq") [] ∧
      parse ([[dash, dash]] ++ row ++ []) ≠ parse ([[dash, dash]] ++ apart ++ []) ∧
      parse ([ofText "-s"] ++ row ++ []) ≠ parse ([ofText "-s"] ++ apart ++ []) := by
  intro row apart
  refine ⟨cluster_of_two, ?_, ?_⟩
  · have items : parse ([[dash, dash]] ++ row ++ []) = .ok { items := row } := rfl
    have others : parse ([[dash, dash]] ++ apart ++ []) =
        .ok { items := [ofText "-n", ofText "-q"] } := rfl
    rw [items, others]
    intro same
    exact absurd (congrArg Options.items (Except.ok.inj same)) (by decide)
  · have together : parse ([ofText "-s"] ++ row ++ []) =
        .ok { socketName := some (ofText "-nq") } := rfl
    have separate : parse ([ofText "-s"] ++ apart ++ []) =
        .ok { socketName := some (ofText "-n"), quiet := true } := rfl
    rw [together, separate]
    intro same
    exact absurd (congrArg Options.quiet (Except.ok.inj same)) (by decide)

/-- A row that ends in the letter of a setting, with the value behind it, in the next
argument, and nowhere. -/
theorem clusters_agree_for_setting :
    let before := [ofText "-d", [dash, dash], ofText "f"]
    TakesOptions before ∧
      Cluster (ofText "nq") (ofText "s=x") ∧ Cluster (ofText "nq") (ofText "s") ∧
      parse (before ++ [ofText "-nqs=x"] ++ [ofText "g"]) =
        parse (before ++ [ofText "-n", ofText "-q", ofText "-s=x"] ++ [ofText "g"]) ∧
      parse (before ++ [ofText "-nqs"] ++ [ofText "-c"]) =
        parse (before ++ [ofText "-n", ofText "-q", ofText "-s"] ++ [ofText "-c"]) ∧
      parse (before ++ [ofText "-nqs"] ++ []) =
        parse (before ++ [ofText "-n", ofText "-q", ofText "-s"] ++ []) := by
  intro before
  have takes : TakesOptions before := takesOptions_iff.mpr (.inl ⟨_, rfl⟩)
  have attached : Cluster (ofText "nq") (ofText "s=x") :=
    { cluster_of_two with
      setting := .inr ⟨_, _, .socketName, rfl, rfl⟩
      free := by decide +kernel
      tailFree := by decide +kernel }
  have letter : Cluster (ofText "nq") (ofText "s") :=
    { cluster_of_two with
      setting := .inr ⟨_, _, .socketName, rfl, rfl⟩
      free := by decide +kernel
      tailFree := by decide +kernel }
  have agree := (clusters_agree_iff before).mpr takes
  exact ⟨takes, attached, letter, agree (ofText "nq") _ [ofText "g"] attached,
    agree (ofText "nq") _ [ofText "-c"] letter, agree (ofText "nq") _ [] letter⟩

end EditorClient.Options
