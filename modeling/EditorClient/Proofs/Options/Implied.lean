/-
# What options imply

Some options ask for a new frame without saying so: a frame on the terminal is a new
frame, and so is one inside another window. This is said of what each argument gives,
and joining keeps it, so it holds of every command line that can be read.

A new frame that is not to open on the terminal then has a display to open on, since
without one it is moved to the terminal.
-/

import EditorClient.Config
import EditorClient.Options.Parse

namespace EditorClient

/-- Two steps succeed if the first does and then the second. -/
theorem exists_of_bind_ok {ε α β : Type} {first : Except ε α} {next : α → Except ε β} {b : β}
    (done : (first >>= next) = .ok b) : ∃ a, first = .ok a ∧ next a = .ok b := by
  cases first with
  | error _ => nomatch done
  | ok a => exact ⟨a, rfl, done⟩

namespace Options

/-! ## What holds of every command line -/

section

variable {P : Options → Prop}

/-- What an argument says that ends in a setting, and what follows it. -/
theorem closed_of_setting (settings : ∀ {setting value o}, ofSetting setting value = .ok o → P o)
    (append : ∀ {x y}, P x → P y → P (x ++ y)) {said o : Options} (here : P said)
    {setting : Setting} {value : Bytes} {rest : List Bytes}
    (others : ∀ {o}, parse rest = .ok o → P o)
    (parsed : (do
      let given ← ofSetting setting value
      let more ← parse rest
      return said ++ given ++ more) = .ok o) : P o := by
  obtain ⟨given, set, parsed⟩ := exists_of_bind_ok parsed
  obtain ⟨more, later, joined⟩ := exists_of_bind_ok parsed
  cases joined
  exact append (append here (settings set)) (others later)

/-- What is true of items, switches and settings by themselves, and of two that are joined,
is true of every command line: the induction follows the arguments as they are read. -/
theorem parse_closed (items : ∀ items, P { items }) (switches : ∀ s, P (ofSwitch s))
    (settings : ∀ {setting value o}, ofSetting setting value = .ok o → P o)
    (append : ∀ {x y}, P x → P y → P (x ++ y)) {args : List Bytes} {o : Options}
    (parsed : parse args = .ok o) : P o := by
  have row (given : List Switch) : P (ofSwitches given) := by
    induction given with
    | nil => exact items []
    | cons s rest ih => exact append (switches s) ih
  induction args using parse.induct generalizing o with
  | case1 =>
      cases parsed
      exact items []
  | case2 arg rest said ih =>
      unfold parse at parsed
      simp only [said] at parsed
      obtain ⟨more, later, joined⟩ := exists_of_bind_ok parsed
      cases joined
      exact append (items [arg]) (ih later)
  | case3 arg rest said =>
      unfold parse at parsed
      simp only [said] at parsed
      cases parsed
      exact items rest
  | case4 arg rest error said =>
      unfold parse at parsed
      simp only [said] at parsed
      nomatch parsed
  | case5 arg given rest said ih =>
      unfold parse at parsed
      simp only [said] at parsed
      obtain ⟨more, later, joined⟩ := exists_of_bind_ok parsed
      cases joined
      exact append (row given) (ih later)
  | case6 arg given setting value rest said ih =>
      unfold parse at parsed
      simp only [said] at parsed
      exact closed_of_setting settings append (row given) ih parsed
  | case7 arg given setting option said =>
      unfold parse at parsed
      simp only [said] at parsed
      nomatch parsed
  | case8 arg given setting option value rest said ih =>
      unfold parse at parsed
      simp only [said] at parsed
      exact closed_of_setting settings append (row given) ih parsed

end

/-! ## What asks for a new frame -/

/-- What asks for a new frame is only there together with one. -/
structure Coherent (o : Options) : Prop where
  terminal : o.terminal = true → o.createFrame = true
  parentId : o.parentId.isSome = true → o.createFrame = true

variable {x y : Options}

theorem Coherent.of_none (terminal : x.terminal = false) (parentId : x.parentId = none) :
    x.Coherent where
  terminal given := absurd (terminal.symm.trans given) Bool.false_ne_true
  parentId given := by
    rw [parentId] at given
    nomatch given

theorem Coherent.of_createFrame (new : x.createFrame = true) : x.Coherent :=
  ⟨fun _ => new, fun _ => new⟩

theorem Coherent.append (first : x.Coherent) (second : y.Coherent) : (x ++ y).Coherent where
  terminal given := by
    rcases (Bool.or_eq_true _ _).mp given with here | later
    · exact (Bool.or_eq_true _ _).mpr (.inl (first.terminal here))
    · exact (Bool.or_eq_true _ _).mpr (.inr (second.terminal later))
  parentId given := by
    have there : (y.parentId.or x.parentId).isSome = true := given
    rw [Option.isSome_or, Bool.or_eq_true] at there
    rcases there with later | here
    · exact (Bool.or_eq_true _ _).mpr (.inr (second.parentId later))
    · exact (Bool.or_eq_true _ _).mpr (.inl (first.parentId here))

theorem coherent_ofSwitch (s : Switch) : (ofSwitch s).Coherent := by
  cases s with
  | terminal => exact .of_createFrame rfl
  | createFrame => exact .of_createFrame rfl
  | _ => exact .of_none rfl rfl

theorem coherent_ofSetting {setting : Setting} {value : Bytes} {o : Options}
    (given : ofSetting setting value = .ok o) : o.Coherent := by
  cases setting with
  | parentId =>
      cases given
      exact .of_createFrame rfl
  | timeout =>
      rw [ofSetting] at given
      split at given
      · cases given
        exact .of_none rfl rfl
      · nomatch given
  | _ =>
      cases given
      exact .of_none rfl rfl

theorem coherent_parse {args : List Bytes} {o : Options} (parsed : parse args = .ok o) :
    o.Coherent :=
  parse_closed (fun _ => .of_none rfl rfl) coherent_ofSwitch coherent_ofSetting
    Coherent.append parsed

end Options

namespace Config

/-- The place of a new frame is settled: it opens on the terminal or on a display with a
name, and a frame that opens on the terminal or in another window is a new one. -/
structure Settled (c : Config) : Prop where
  terminal : c.terminal = true → c.createFrame = true
  parentId : c.parentId.isSome = true → c.createFrame = true
  named : ∀ name, c.display = some name → name ≠ ""
  placed : c.createFrame = true → c.terminal = false → c.display.isSome = true

theorem displayOf_named {options : Options} {env : Environment} {name : String}
    (found : displayOf options env = some name) : name ≠ "" := by
  rw [displayOf, Option.filter_eq_some_iff] at found
  exact of_decide_eq_true found.2

/-- What a configuration takes from the options and the environment: the name of the
program, what concerns its frame, and its timeout. -/
structure Resolves (program : String) (options : Options) (env : Environment) (c : Config) :
    Prop where
  program : c.program = program
  createFrame : c.createFrame = options.createFrame
  display : c.display = displayOf options env
  terminal : c.terminal = (options.terminal || (options.createFrame && c.display.isNone))
  parentId : c.parentId = options.parentId
  timeout : options.timeout.isSome ∧ c.timeout = options.timeout ∨
    options.timeout = none ∧ timeoutOf env = .ok c.timeout

theorem resolves_of_resolve {program : String} {options : Options} {env : Environment}
    {directory : Bytes} {c : Config}
    (resolved : resolve program options env directory = .ok c) :
    Resolves program options env c := by
  unfold resolve at resolved
  cases given : options.timeout with
  | some timeout =>
      simp only [given] at resolved
      cases resolved
      exact ⟨rfl, rfl, rfl, rfl, rfl, .inl ⟨by rw [given]; rfl, given.symm⟩⟩
  | none =>
      simp only [given] at resolved
      obtain ⟨timeout, found, made⟩ := exists_of_bind_ok resolved
      cases made
      exact ⟨rfl, rfl, rfl, rfl, rfl, .inr ⟨given, found⟩⟩

theorem settled_resolve {program : String} {options : Options} {env : Environment}
    {directory : Bytes} {c : Config} (coherent : options.Coherent)
    (resolved : resolve program options env directory = .ok c) : c.Settled := by
  obtain ⟨-, new, display, terminal, parentId, -⟩ := resolves_of_resolve resolved
  refine ⟨?_, ?_, ?_, ?_⟩
  · intro onTerminal
    rw [terminal, Bool.or_eq_true, Bool.and_eq_true] at onTerminal
    rw [new]
    exact onTerminal.elim coherent.terminal And.left
  · intro inside
    rw [parentId] at inside
    rw [new]
    exact coherent.parentId inside
  · intro name found
    exact displayOf_named (display ▸ found)
  · intro creates elsewhere
    rw [terminal, ← new, creates, Bool.or_eq_false_iff, Bool.true_and] at elsewhere
    exact Option.isNone_eq_false_iff.mp elsewhere.2

end Config

end EditorClient
