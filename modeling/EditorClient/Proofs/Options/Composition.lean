/-
# Command lines in parts

What a command line says is put together from what its parts say. If the options have not
ended in the first part, the second is read as if it stood alone and its word is the last
one; if they have ended, all of the second part is items; and an argument that is wrong by
itself stays wrong whatever follows.

So items can stand anywhere among the options, as long as no option is parted from its
value: only the order of the options among each other and that of the items count.
-/

import EditorClient.Proofs.Options.Progress

namespace EditorClient.Options

open Bytes

variable {x said : Options} {args more : List Bytes}

/-- What two command lines say together: switches add up, the later value of a setting
counts, and items follow each other. -/
structure Merged (x y z : Options) : Prop where
  switches : ∀ s, z.has s = (x.has s || y.has s)
  values : ∀ setting, z.value? setting = (y.value? setting).or (x.value? setting)
  timeout : z.timeout = y.timeout.or x.timeout
  items : z.items = x.items ++ y.items

theorem merged_append (x y : Options) : Merged x y (x ++ y) where
  switches := has_append x y
  values := value?_append x y
  timeout := rfl
  items := rfl

/-- Items alone change nothing else. -/
theorem append_items (x : Options) (items : List Bytes) :
    x ++ { items := items } = { x with items := x.items ++ items } :=
  congrArg (fun o => { o with items := x.items ++ items }) (append_empty x)

/-! ## Two parts -/

/-- The second part follows options that are complete. -/
theorem parse_append_of_ready (ready : progress args = .ready said) (more : List Bytes) :
    parse (args ++ more) = (parse more).map (said ++ ·) := by
  rw [parse_eq, progress_append, ready, steps_ready, Progress.result_behind, ← parse_eq]

/-- The second part follows the end of options. -/
theorem parse_append_of_ended (ended : progress args = .ended said) (more : List Bytes) :
    parse (args ++ more) = .ok (said ++ { items := more }) := by
  rw [parse_eq, progress_append, ended, Progress.steps_ended, Progress.result]

/-- The second part follows an argument that is wrong. -/
theorem parse_append_of_failed {error : OptionError} (failed : progress args = .failed error)
    (more : List Bytes) : parse (args ++ more) = .error error := by
  rw [parse_eq, progress_append, failed, Progress.steps_failed, Progress.result]

theorem ready_of_parse (open_ : ¬ EndReached args) (parsed : parse args = .ok x) :
    progress args = .ready x := by
  rw [parse_eq] at parsed
  cases ends : progress args with
  | ready said =>
      rw [ends] at parsed
      exact congrArg Progress.ready (Except.ok.inj parsed)
  | waiting said setting option =>
      rw [ends] at parsed
      nomatch parsed
  | ended said => exact absurd (endReached_iff.mpr ⟨said, ends⟩) open_
  | failed error =>
      rw [ends] at parsed
      nomatch parsed

theorem failed_of_parse {error : OptionError} (parsed : parse args = .error error)
    (given : ∀ option, error ≠ .missingValue option) : progress args = .failed error := by
  rw [parse_eq] at parsed
  cases ends : progress args with
  | ready said | ended said =>
      rw [ends] at parsed
      nomatch parsed
  | waiting said setting option =>
      rw [ends] at parsed
      exact absurd (Except.error.inj parsed).symm (given option)
  | failed found =>
      rw [ends] at parsed
      exact congrArg Progress.failed (Except.error.inj parsed)

/-! ## Items among options -/

/-- A row of options with all their values, and no items. It may be wrong, but not for
want of a value. -/
def Complete (args : List Bytes) : Prop :=
  (∃ said, progress args = .ready said ∧ said.items = []) ∨
    ∃ error, progress args = .failed error

/-- The line has these groups of arguments and these items, each in its order. -/
inductive Interleaved : List (List Bytes) → List Bytes → List Bytes → Prop
  | done : Interleaved [] [] []
  | options (group : List Bytes) {groups : List (List Bytes)} {items line : List Bytes}
      (rest : Interleaved groups items line) :
      Interleaved (group :: groups) items (group ++ line)
  | item (item : Bytes) {groups : List (List Bytes)} {items line : List Bytes}
      (rest : Interleaved groups items line) :
      Interleaved groups (item :: items) (item :: line)

theorem complete_nil : Complete [] := .inl ⟨{}, rfl, rfl⟩

theorem Complete.append (first : Complete args) (second : Complete more) :
    Complete (args ++ more) := by
  rcases first with ⟨said, ready, none⟩ | ⟨error, failed⟩
  · rw [Complete, progress_append, ready, steps_ready]
    rcases second with ⟨told, ready, noneLater⟩ | ⟨error, failed⟩
    · rw [ready]
      refine .inl ⟨_, rfl, ?_⟩
      exact List.append_eq_nil_iff.mpr ⟨none, noneLater⟩
    · rw [failed]
      exact .inr ⟨error, rfl⟩
  · rw [Complete, progress_append, failed, Progress.steps_failed]
    exact .inr ⟨error, rfl⟩

theorem complete_flatten {groups : List (List Bytes)}
    (complete : ∀ group ∈ groups, Complete group) : Complete groups.flatten := by
  induction groups with
  | nil => exact complete_nil
  | cons group rest ih =>
      rw [List.flatten_cons]
      exact (complete group List.mem_cons_self).append
        (ih fun other there => complete other (List.mem_cons_of_mem group there))

/-- An item and options without items can change places. -/
theorem ofItem_append (item : Bytes) (none : x.items = []) :
    ofItem item ++ x = x ++ ofItem item := by
  refine eq_of_has_value? (fun s => ?_) (fun setting => ?_) ?_ ?_
  · rw [has_append, has_append, Bool.or_comm]
  · have unset : (ofItem item).value? setting = .none := by cases setting <;> rfl
    rw [value?_append, value?_append, unset, Option.or_none, Option.none_or]
  · exact Option.or_none
  · show [item] ++ x.items = x.items ++ [item]
    rw [none]
    rfl

/-- An item can stand behind complete options as well as before them. -/
theorem steps_item {item : Bytes} (read : Argument.read item = .item) (complete : Complete args)
    (said : Options) (more : List Bytes) :
    (Progress.ready said).steps (item :: (args ++ more)) =
      (Progress.ready said).steps (args ++ item :: more) := by
  have heard (told : Options) : (Progress.ready told).step item = .ready (told ++ ofItem item) := by
    rw [Progress.step, read, Progress.hear]
  rw [Progress.steps_cons, heard, Progress.steps_append, Progress.steps_append, steps_ready,
    steps_ready said args]
  rcases complete with ⟨told, ready, none⟩ | ⟨error, failed⟩
  · rw [ready, Progress.behind, Progress.behind, Progress.steps_cons, heard, append_assoc,
      append_assoc, ofItem_append item none]
  · rw [failed, Progress.behind, Progress.behind, Progress.steps_failed, Progress.steps_failed]

/-- All options can stand first. The induction is on the line: options are where they should
be, and an item moves behind all options that follow. -/
theorem steps_interleaved {groups : List (List Bytes)} {items line : List Bytes}
    (interleaved : Interleaved groups items line) (complete : ∀ group ∈ groups, Complete group)
    (read : ∀ item ∈ items, Argument.read item = .item) (said : Options) (more : List Bytes) :
    (Progress.ready said).steps (line ++ more) =
      (Progress.ready said).steps (groups.flatten ++ (items ++ more)) := by
  induction interleaved generalizing said with
  | done => rfl
  | @options group groups items line _ ih =>
      have onwards := ih fun other there => complete other (List.mem_cons_of_mem group there)
      rw [List.flatten_cons, List.append_assoc, List.append_assoc, Progress.steps_append,
        Progress.steps_append _ group, steps_ready]
      rcases complete group List.mem_cons_self with ⟨told, ready, -⟩ | ⟨error, failed⟩
      · rw [ready]
        exact onwards read (said ++ told)
      · rw [failed, Progress.behind, Progress.steps_failed, Progress.steps_failed]
  | @item item groups items line _ ih =>
      have onwards := ih complete fun other there => read other (List.mem_cons_of_mem item there)
      have here := read item List.mem_cons_self
      calc (Progress.ready said).steps (item :: line ++ more)
        _ = (Progress.ready (said ++ ofItem item)).steps (line ++ more) := by
            rw [List.cons_append, Progress.steps_cons, Progress.step, here, Progress.hear]
        _ = (Progress.ready (said ++ ofItem item)).steps (groups.flatten ++ (items ++ more)) :=
            onwards _
        _ = (Progress.ready said).steps (item :: (groups.flatten ++ (items ++ more))) := by
            rw [Progress.steps_cons, Progress.step, here, Progress.hear]
        _ = (Progress.ready said).steps (groups.flatten ++ (item :: items ++ more)) :=
            steps_item here (complete_flatten complete) said _

/-- A command line in two parts. While the options have not ended in the first part, the
second says what it says alone, and has the last word; after the end of options it is items
as it stands; and an error of the first part that is no missing value stays. So it does not
matter where the items stand among complete options. -/
theorem parse_parts (first second : List Bytes) :
    (∀ x, ¬ EndReached first → parse first = .ok x →
      (∀ error, parse second = .error error → parse (first ++ second) = .error error) ∧
      ∀ y, parse second = .ok y → ∃ z, parse (first ++ second) = .ok z ∧ Merged x y z) ∧
    (EndReached first → ∃ x, parse first = .ok x ∧
      parse (first ++ second) = .ok { x with items := x.items ++ second }) ∧
    (∀ error, (∀ option, error ≠ .missingValue option) → parse first = .error error →
      parse (first ++ second) = .error error) ∧
    ∀ groups items line other, TakesOptions first → (∀ group ∈ groups, Complete group) →
      (∀ item ∈ items, Argument.read item = .item) →
      Interleaved groups items line → Interleaved groups items other →
      parse (first ++ line ++ second) = parse (first ++ other ++ second) := by
  refine ⟨?_, ?_, ?_, ?_⟩
  · intro x open_ parsed
    have onwards := parse_append_of_ready (ready_of_parse open_ parsed) second
    constructor
    · intro error failed
      rw [onwards, failed]
      rfl
    · intro y told
      refine ⟨x ++ y, ?_, merged_append x y⟩
      rw [onwards, told]
      rfl
  · intro ended
    obtain ⟨said, ended⟩ := endReached_iff.mp ended
    refine ⟨said, by rw [parse_eq, ended, Progress.result], ?_⟩
    rw [parse_append_of_ended ended, append_items]
  · intro error given parsed
    exact parse_append_of_failed (failed_of_parse parsed given) second
  · intro groups items line other takes complete read one two
    rw [List.append_assoc, List.append_assoc]
    apply parse_append_congr takes
    intro said
    rw [steps_interleaved one complete read, steps_interleaved two complete read]

/-- Two dashes that are the value of an option end nothing, and two that are an argument of
their own do. A letter that means nothing is wrong before other options and behind them. An
item can stand before or behind an option with its value. -/
theorem parse_parts_of_dashes :
    let first := [ofText "-s", [dash, dash], ofText "f"]
    let second := [ofText "-qd", ofText "-s", [dash, dash], ofText "-n"]
    let x : Options := { socketName := some [dash, dash], items := [ofText "f"] }
    let y : Options := { quiet := true, display := some "-s", items := [ofText "-n"] }
    ¬ EndReached first ∧ EndReached second ∧ parse first = .ok x ∧ parse second = .ok y ∧
      (∃ z, parse (first ++ second) = .ok z ∧ Merged x y z) ∧
      parse (second ++ first) = .ok { y with items := ofText "-n" :: first } ∧
      parse (first ++ [ofText "-x"]) = .error (.unknown "-x") ∧
      parse ([ofText "-x"] ++ first) = .error (.unknown "-x") ∧
      parse ([] ++ [ofText "g", ofText "-s", [dash, dash], ofText "f"] ++ second) =
        parse ([] ++ [ofText "-s", [dash, dash], ofText "g", ofText "f"] ++ second) := by
  intro first second x y
  have ready : progress first = .ready x := rfl
  have ended : progress second = .ended y := rfl
  have notEnded : ¬ EndReached first := by
    intro ends
    obtain ⟨_, ends⟩ := endReached_iff.mp ends
    exact nomatch ready.symm.trans ends
  have here : parse first = .ok x := by rw [parse_eq, ready, Progress.result]
  have later : parse second = .ok y := by rw [parse_eq, ended, Progress.result]
  have reached : EndReached second := endReached_iff.mpr ⟨y, ended⟩
  have wrong : parse [ofText "-x"] = .error (.unknown "-x") := rfl
  obtain ⟨y', told, both⟩ := (parse_parts second first).2.1 reached
  cases Except.ok.inj (later.symm.trans told)
  refine ⟨notEnded, reached, here, later, ?_, both, ?_, ?_, ?_⟩
  · exact ((parse_parts first second).1 x notEnded here).2 y later
  · exact ((parse_parts first [ofText "-x"]).1 x notEnded here).1 _ wrong
  · exact (parse_parts [ofText "-x"] first).2.2.1 _ nofun wrong
  · apply (parse_parts [] second).2.2.2 [[ofText "-s", [dash, dash]]] [ofText "g", ofText "f"]
    · exact takesOptions_iff.mpr (.inl ⟨{}, rfl⟩)
    · intro group there
      rw [List.mem_singleton.mp there]
      exact .inl ⟨_, rfl, rfl⟩
    · decide +kernel
    · exact .item _ (.options [_, _] (.item _ .done))
    · exact .options [_, _] (.item _ (.item _ .done))

end EditorClient.Options
