/-
# Reading a command line step by step

A command line can be read one argument after the other. What has been read so far leaves
one of four ways to go on: the next argument is read for itself, it is the value of the
last option, it is an item because the options have ended, or it is not looked at any more
because an earlier argument was wrong.

Going on does not depend on what was said before, which only stands in front of what is
said later. So a command line that is cut in two means what its parts mean, wherever the
first part leaves the next argument to be read for itself.
-/

import EditorClient.Proofs.Options.RoundTrip

namespace EditorClient.Options

open Bytes

/-- How far a command line has been read, with what it has said. -/
inductive Progress
  /-- The next argument is read for itself. -/
  | ready (said : Options)
  /-- The next argument is the value of a setting, shown as `option` in messages. -/
  | waiting (said : Options) (setting : Setting) (option : String)
  /-- All that follow are items. -/
  | ended (said : Options)
  /-- An argument was wrong. -/
  | failed (error : OptionError)

namespace Progress

/-- A setting is given a value. -/
def set (said : Options) (setting : Setting) (value : Bytes) : Progress :=
  match ofSetting setting value with
  | .ok here => .ready (said ++ here)
  | .error error => .failed error

/-- An argument is read for itself. -/
def hear (said : Options) (arg : Bytes) : Argument → Progress
  | .item => .ready (said ++ ofItem arg)
  | .endOfOptions => .ended said
  | .refused error => .failed error
  | .switches given => .ready (said ++ ofSwitches given)
  | .assigns given setting value => set (said ++ ofSwitches given) setting value
  | .expects given setting option => .waiting (said ++ ofSwitches given) setting option

/-- One argument more. -/
def step : Progress → Bytes → Progress
  | .ready said, arg => hear said arg (Argument.read arg)
  | .waiting said setting _, value => set said setting value
  | .ended said, item => .ended (said ++ ofItem item)
  | .failed error, _ => .failed error

/-- Several arguments more. -/
def steps (p : Progress) (args : List Bytes) : Progress := args.foldl step p

/-- What a command line says that ends here. -/
def result : Progress → Except OptionError Options
  | .ready said => .ok said
  | .waiting _ _ option => .error (.missingValue option)
  | .ended said => .ok said
  | .failed error => .error error

/-- The same with something said before. -/
def behind (x : Options) : Progress → Progress
  | .ready said => .ready (x ++ said)
  | .waiting said setting option => .waiting (x ++ said) setting option
  | .ended said => .ended (x ++ said)
  | .failed error => .failed error

variable {p : Progress} {x said : Options} {args more : List Bytes}

@[simp]
theorem steps_nil (p : Progress) : p.steps [] = p := rfl

@[simp]
theorem steps_cons (p : Progress) (arg : Bytes) (args : List Bytes) :
    p.steps (arg :: args) = (p.step arg).steps args := rfl

theorem steps_append (p : Progress) (args more : List Bytes) :
    p.steps (args ++ more) = (p.steps args).steps more := List.foldl_append

theorem steps_failed (error : OptionError) (args : List Bytes) :
    (failed error).steps args = .failed error := by
  induction args with
  | nil => rfl
  | cons arg rest ih => exact ih

/-- After the end of options every argument is an item, whatever it looks like. -/
theorem steps_ended (said : Options) (args : List Bytes) :
    (ended said).steps args = .ended (said ++ { items := args }) := by
  induction args generalizing said with
  | nil => exact congrArg ended (append_empty said).symm
  | cons arg rest ih =>
      have both : ofItem arg ++ { items := rest } = ({ items := arg :: rest } : Options) := rfl
      rw [steps_cons, step, ih, append_assoc, both]

/-! ## What was said before stands in front -/

theorem behind_set (x : Options) (setting : Setting) (value : Bytes) :
    (set said setting value).behind x = set (x ++ said) setting value := by
  unfold set
  cases ofSetting setting value with
  | ok here => exact congrArg ready (append_assoc x said here).symm
  | error error => rfl

theorem behind_hear (x : Options) (arg : Bytes) (heard : Argument) :
    (hear said arg heard).behind x = hear (x ++ said) arg heard := by
  cases heard with
  | item => exact congrArg ready (append_assoc ..).symm
  | endOfOptions | refused => rfl
  | switches given => exact congrArg ready (append_assoc ..).symm
  | assigns given setting value => rw [hear, behind_set, hear, append_assoc]
  | expects given setting option =>
      exact congrArg (fun told => waiting told setting option) (append_assoc ..).symm

/-- One argument does not depend on what was said before. -/
theorem step_behind (p : Progress) (x : Options) (arg : Bytes) :
    (p.behind x).step arg = (p.step arg).behind x := by
  cases p with
  | ready said => exact (behind_hear ..).symm
  | waiting said setting option => exact (behind_set ..).symm
  | ended said => exact congrArg ended (append_assoc ..)
  | failed error => rfl

theorem steps_behind (p : Progress) (x : Options) (args : List Bytes) :
    (p.behind x).steps args = (p.steps args).behind x := by
  induction args generalizing p with
  | nil => rfl
  | cons arg rest ih => rw [steps_cons, step_behind, ih, steps_cons]

theorem result_behind (p : Progress) (x : Options) :
    (p.behind x).result = p.result.map (x ++ ·) := by
  cases p <;> rfl

end Progress

/-- How far a command line leads that is read from its beginning. -/
def progress (args : List Bytes) : Progress := (Progress.ready {}).steps args

variable {said : Options} {args more : List Bytes}

theorem progress_nil : progress [] = .ready {} := rfl

theorem progress_append (args more : List Bytes) :
    progress (args ++ more) = (progress args).steps more := Progress.steps_append ..

/-- Going on is like starting anew, with what was said so far in front. -/
theorem steps_ready (said : Options) (args : List Bytes) :
    (Progress.ready said).steps args = (progress args).behind said := by
  rw [progress, ← Progress.steps_behind, Progress.behind, append_empty]

theorem progress_cons (arg : Bytes) (args : List Bytes) :
    progress (arg :: args) = (Progress.hear {} arg (Argument.read arg)).steps args := rfl

section

variable {rest : List Bytes} (later : parse rest = (progress rest).result)

include later

theorem result_ready (x : Options) :
    ((Progress.ready x).steps rest).result = (parse rest).map (x ++ ·) := by
  rw [steps_ready, Progress.result_behind, later]

theorem result_set (x : Options) (setting : Setting) (value : Bytes) :
    ((Progress.set x setting value).steps rest).result =
      (do
        let here ← ofSetting setting value
        let more ← parse rest
        return x ++ here ++ more) := by
  unfold Progress.set
  cases ofSetting setting value with
  | ok here => exact result_ready later _
  | error error => exact congrArg Progress.result (Progress.steps_failed error rest)

end

/-- Reading step by step comes to what the command line says. The induction follows the
arguments as they are read: each stands in front of what the others say. -/
theorem parse_eq (args : List Bytes) : parse args = (progress args).result := by
  induction args using parse.induct with
  | case1 => rfl
  | case2 arg rest said ih =>
      conv_lhs => unfold parse
      simp only [said]
      rw [progress_cons, said, Progress.hear, empty_append, result_ready ih]
      rfl
  | case3 arg rest said =>
      conv_lhs => unfold parse
      simp only [said]
      rw [progress_cons, said, Progress.hear, Progress.steps_ended, empty_append]
      rfl
  | case4 arg rest error said =>
      conv_lhs => unfold parse
      simp only [said]
      rw [progress_cons, said, Progress.hear, Progress.steps_failed]
      rfl
  | case5 arg given rest said ih =>
      conv_lhs => unfold parse
      simp only [said]
      rw [progress_cons, said, Progress.hear, empty_append, result_ready ih]
      rfl
  | case6 arg given setting value rest said ih =>
      conv_lhs => unfold parse
      simp only [said]
      rw [progress_cons, said, Progress.hear, empty_append, result_set ih]
  | case7 arg given setting option said =>
      conv_lhs => unfold parse
      simp only [said]
      rw [progress_cons, said]
      rfl
  | case8 arg given setting option value rest said ih =>
      conv_lhs => unfold parse
      simp only [said]
      rw [progress_cons, said, Progress.hear, empty_append, Progress.steps_cons, Progress.step,
        result_set ih]

/-! ## Where a command line leads -/

/-- What is read of an argument that says something about options. If it is refused, then
not for want of a value. -/
def IsOption : Argument → Prop
  | .item | .endOfOptions => False
  | .refused error => ∀ option, error ≠ .missingValue option
  | .switches _ | .assigns _ _ _ | .expects _ _ _ => True

theorem isOption_readLong (body : Bytes) : IsOption (Argument.readLong body) := by
  unfold Argument.readLong
  dsimp only
  split <;> first | trivial | exact nofun

theorem IsOption.give {heard : Argument} (s : Switch) (option : IsOption heard) :
    IsOption (heard.give s) := by
  cases heard with
  | item | endOfOptions => exact option.elim
  | refused error => exact option
  | switches given | assigns given setting value | expects given setting option => trivial

theorem isOption_readLetters (body row : Bytes) : IsOption (Argument.readLetters body row) := by
  induction row with
  | nil => trivial
  | cons b rest ih =>
      unfold Argument.readLetters
      split
      · exact nofun
      · exact ih.give _
      · trivial
      · trivial

/-- An argument is the end of options, an item, or about options. -/
theorem read_cases (arg : Bytes) :
    arg = [dash, dash] ∧ Argument.read arg = .endOfOptions ∨ Argument.read arg = .item ∨
      IsOption (Argument.read arg) := by
  unfold Argument.read
  split
  case isTrue ends => exact .inl ⟨ends, rfl⟩
  case isFalse =>
      split
      · split
        · exact .inr (.inl rfl)
        · split
          · exact .inr (.inr (isOption_readLong _))
          · unfold Argument.readShort
            split
            · exact .inr (.inr (isOption_readLong _))
            · exact .inr (.inr (isOption_readLetters _ _))
      · exact .inr (.inl rfl)

/-- The options go on, or an argument is wrong for another reason than a missing value. -/
def Progress.Continues : Progress → Prop
  | .ready _ | .waiting _ _ _ => True
  | .ended _ => False
  | .failed error => ∀ option, error ≠ .missingValue option

theorem continues_set (said : Options) (setting : Setting) (value : Bytes) :
    (Progress.set said setting value).Continues := by
  unfold Progress.set ofSetting
  cases setting with
  | timeout =>
      dsimp only
      cases Duration.read? (Utf8.lossy value) with
      | some t => trivial
      | none => exact nofun
  | _ => trivial

theorem continues_hear {heard : Argument} (option : IsOption heard) (said : Options)
    (arg : Bytes) : (Progress.hear said arg heard).Continues := by
  cases heard with
  | item | endOfOptions => exact option.elim
  | refused error => exact option
  | switches given | expects given setting shown => trivial
  | assigns given setting value => exact continues_set ..

/-- What one argument can do: only two dashes that are read for themselves end the options,
and only a failure stays as it is. -/
theorem step_cases (p : Progress) (arg : Bytes) :
    (p.step arg).Continues ∨
      (∃ told, p = .ready told ∧ arg = [dash, dash] ∧ p.step arg = .ended told) ∨
      (∃ told more, p = .ended told ∧ p.step arg = .ended more) ∨
      ∃ error, p = .failed error ∧ p.step arg = p := by
  cases p with
  | ready told =>
      rcases read_cases arg with ⟨dashes, ends⟩ | item | option
      · refine .inr (.inl ⟨told, rfl, dashes, ?_⟩)
        rw [Progress.step, ends, Progress.hear]
      · rw [Progress.step, item]
        exact .inl trivial
      · exact .inl (continues_hear option told arg)
  | waiting told setting shown => exact .inl (continues_set ..)
  | ended told => exact .inr (.inr (.inl ⟨told, _, rfl, rfl⟩))
  | failed error => exact .inr (.inr (.inr ⟨error, rfl, rfl⟩))

theorem progress_concat (args : List Bytes) (arg : Bytes) :
    progress (args ++ [arg]) = (progress args).step arg := progress_append ..

/-- Only at the end can a value be missing. -/
theorem progress_ne_missing (args : List Bytes) (option : String) :
    progress args ≠ .failed (.missingValue option) := by
  induction args using List.reverseRecOn with
  | nil =>
      rw [progress_nil]
      exact nofun
  | append_singleton init arg ih =>
      rw [progress_concat]
      intro failed
      rcases step_cases (progress init) arg with
        continues | ⟨_, -, -, ended⟩ | ⟨_, _, -, ended⟩ | ⟨_, -, stays⟩
      · rw [failed] at continues
        exact continues option rfl
      · exact nomatch failed.symm.trans ended
      · exact nomatch failed.symm.trans ended
      · exact ih (stays.symm.trans failed)

/-- Whether the end of options is among the arguments: two dashes where an argument is read
for itself. -/
def EndReached (args : List Bytes) : Prop :=
  ∃ before items said, args = before ++ [dash, dash] :: items ∧ progress before = .ready said

theorem endReached_iff : EndReached args ↔ ∃ said, progress args = .ended said := by
  constructor
  · rintro ⟨before, items, said, rfl, ready⟩
    refine ⟨said ++ { items := items }, ?_⟩
    rw [progress_append, ready]
    exact Progress.steps_ended said items
  · intro ended
    induction args using List.reverseRecOn with
    | nil =>
        obtain ⟨said, ended⟩ := ended
        rw [progress_nil] at ended
        nomatch ended
    | append_singleton init arg ih =>
        obtain ⟨said, ended⟩ := ended
        rw [progress_concat] at ended
        -- Either `arg` is the end of options or `init` has reached it.
        rcases step_cases (progress init) arg with
          continues | ⟨told, ready, rfl, -⟩ | ⟨told, _, earlier, -⟩ | ⟨_, failed, stays⟩
        · rw [ended] at continues
          exact continues.elim
        · exact ⟨init, [], told, rfl, ready⟩
        · obtain ⟨before, items, said, rfl, ready⟩ := ih ⟨told, earlier⟩
          refine ⟨before, items ++ [arg], said, ?_, ready⟩
          rw [List.append_assoc, List.cons_append]
        · exact nomatch failed.symm.trans (stays.symm.trans ended)

theorem parse_eq_missing_iff {option : String} :
    parse args = .error (.missingValue option) ↔
      ∃ said setting, progress args = .waiting said setting option := by
  rw [parse_eq]
  cases ends : progress args with
  | ready said | ended said =>
      constructor
      · exact nofun
      · rintro ⟨_, _, ⟨⟩⟩
  | waiting said setting shown =>
      constructor
      · rintro ⟨⟩
        exact ⟨said, setting, rfl⟩
      · rintro ⟨_, _, ⟨⟩⟩
        rfl
  | failed error =>
      constructor
      · rintro ⟨⟩
        exact absurd ends (progress_ne_missing args option)
      · rintro ⟨_, _, ⟨⟩⟩

/-- Whether more options can follow: the end of options is not reached, and the last option
has its value. -/
structure TakesOptions (args : List Bytes) : Prop where
  notEnded : ¬ EndReached args
  complete : ∀ option, parse args ≠ .error (.missingValue option)

/-- More options can follow where the next argument is read for itself, and where it is of
no account any more. -/
theorem takesOptions_iff :
    TakesOptions args ↔
      (∃ said, progress args = .ready said) ∨ ∃ error, progress args = .failed error := by
  constructor
  · rintro ⟨notEnded, complete⟩
    cases ends : progress args with
    | ready said => exact .inl ⟨said, rfl⟩
    | waiting said setting option =>
        exact absurd (parse_eq_missing_iff.mpr ⟨said, setting, ends⟩) (complete option)
    | ended said => exact absurd (endReached_iff.mpr ⟨said, ends⟩) notEnded
    | failed error => exact .inr ⟨error, rfl⟩
  · intro ends
    constructor
    · intro ended
      obtain ⟨said, ended⟩ := endReached_iff.mp ended
      rcases ends with ⟨_, ready⟩ | ⟨_, failed⟩
      · exact nomatch ready.symm.trans ended
      · exact nomatch failed.symm.trans ended
    · intro option missing
      obtain ⟨_, _, waiting⟩ := parse_eq_missing_iff.mp missing
      rcases ends with ⟨_, ready⟩ | ⟨_, failed⟩
      · exact nomatch ready.symm.trans waiting
      · exact nomatch failed.symm.trans waiting

/-- Where more options can follow, it is enough that two lines say the same there. -/
theorem parse_append_congr {before one other : List Bytes} (takes : TakesOptions before)
    (same : ∀ said, (Progress.ready said).steps one = (Progress.ready said).steps other) :
    parse (before ++ one) = parse (before ++ other) := by
  rw [parse_eq, parse_eq, progress_append, progress_append]
  rcases takesOptions_iff.mp takes with ⟨said, ready⟩ | ⟨error, failed⟩
  · rw [ready, same]
  · rw [failed, Progress.steps_failed, Progress.steps_failed]

end EditorClient.Options
