/-
# Options come back from their command line

Options are written as one argument for each switch that is on and for each value that is
there, then the end of options, then the items. Read again they are the same, provided no
argument said anything else in passing: a frame on the terminal and one inside another
window ask for a new frame, so the options have to do so too. A timeout is left out,
since it is a number and not the text that it was read from.

The order of the arguments does not matter, because what a command line says is told by
membership: a switch is on if some argument gives it, and a value is the one that all
arguments for it agree on.
-/

import EditorClient.Proofs.Lines
import EditorClient.Proofs.Options.Implied
import EditorClient.Proofs.Text.Utf8

namespace EditorClient

open Bytes

namespace Options

/-! ## What options consist of -/

/-- Whether a switch is on. -/
def has (o : Options) : Switch → Bool
  | .noWait => o.noWait
  | .quiet => o.quiet
  | .suppressOutput => o.suppressOutput
  | .eval => o.eval
  | .help => o.showHelp
  | .version => o.showVersion
  | .terminal => o.terminal
  | .createFrame => o.createFrame

/-- The bytes of the value of a setting. A timeout has none. -/
def value? (o : Options) : Setting → Option Bytes
  | .alternateEditor => o.alternateEditor.map ofText
  | .frameParameters => o.frameParameters.map ofText
  | .socketName => o.socketName
  | .serverFile => o.serverFile
  | .display => o.display.map ofText
  | .parentId => o.parentId.map ofText
  | .tramp => o.tramp.map ofText
  | .timeout => none

variable {x y o : Options} {s : Switch} {setting : Setting}

theorem eq_of_has_value? (switches : ∀ s, x.has s = y.has s)
    (values : ∀ setting, x.value? setting = y.value? setting) (timeout : x.timeout = y.timeout)
    (items : x.items = y.items) : x = y := by
  have text {a b : Option String} (same : a.map ofText = b.map ofText) : a = b :=
    Option.map_injective Utf8.ofText_injective same
  cases x
  cases y
  simp only [mk.injEq]
  exact ⟨switches .noWait, switches .quiet, switches .suppressOutput, switches .eval,
    switches .help, switches .version, switches .terminal, switches .createFrame,
    text (values .alternateEditor), text (values .frameParameters), values .socketName,
    values .serverFile, text (values .display), text (values .parentId), text (values .tramp),
    timeout, items⟩

theorem has_append (x y : Options) (s : Switch) : (x ++ y).has s = (x.has s || y.has s) := by
  cases s <;> rfl

theorem value?_append (x y : Options) (setting : Setting) :
    (x ++ y).value? setting = (y.value? setting).or (x.value? setting) := by
  cases setting with
  | socketName | serverFile | timeout => rfl
  | _ => exact Option.map_or

theorem empty_append (x : Options) : {} ++ x = x :=
  eq_of_has_value? (fun s => by rw [has_append]; cases s <;> exact Bool.false_or _)
    (fun setting => by rw [value?_append]; cases setting <;> exact Option.or_none)
    Option.or_none (List.nil_append _)

theorem append_empty (x : Options) : x ++ {} = x :=
  eq_of_has_value? (fun s => by rw [has_append]; cases s <;> exact Bool.or_false _)
    (fun setting => by rw [value?_append]; cases setting <;> exact Option.none_or)
    Option.none_or (List.append_nil _)

theorem append_assoc (x y z : Options) : x ++ y ++ z = x ++ (y ++ z) :=
  eq_of_has_value? (fun s => by simp only [has_append, Bool.or_assoc])
    (fun setting => by simp only [value?_append, Option.or_assoc])
    Option.or_assoc.symm (List.append_assoc ..)

/-! ## What is given on a command line -/

/-- An option as it is given, by itself or with a value. -/
inductive Given
  | switch (s : Switch)
  | value (setting : Setting) (bytes : Bytes)
  deriving DecidableEq, Repr

/-- Whether options are given by this. -/
def Gives (o : Options) : Given → Prop
  | .switch s => o.has s = true
  | .value setting bytes => o.value? setting = some bytes

/-- All switches. -/
def switches : List Switch :=
  [.noWait, .quiet, .suppressOutput, .eval, .help, .version, .terminal, .createFrame]

/-- All settings. -/
def settings : List Setting :=
  [.alternateEditor, .frameParameters, .socketName, .serverFile, .display, .parentId, .tramp,
    .timeout]

/-- What has to be given for these options: each switch that is on, and each value that is
there. -/
def givens (o : Options) : List Given :=
  (switches.filter o.has).map .switch ++
    settings.filterMap fun setting => (o.value? setting).map (.value setting)

theorem mem_givens {g : Given} : g ∈ o.givens ↔ o.Gives g := by
  have everySwitch (s : Switch) : s ∈ switches := by cases s <;> decide
  have everySetting (setting : Setting) : setting ∈ settings := by cases setting <;> decide
  cases g <;> simp [givens, Gives, everySwitch, everySetting]

namespace Given

/-- The option that is given. -/
def kind : Given → OptionKind
  | .switch s => .switch s
  | .value setting _ => .setting setting

/-- The argument that gives an option by a long name, with its value behind an equals
sign. -/
def argument (spelled : OptionKind → String) (g : Given) : Bytes :=
  [dash, dash] ++ ofText (spelled g.kind) ++
    match g with
    | .switch _ => []
    | .value _ bytes => equals :: bytes

/-- What a command line says with this alone. -/
def meaning : Given → Options
  | .switch s => ofSwitch s
  | .value setting bytes => ((ofSetting setting bytes).toOption).getD {}

end Given

/-- What a command line says with all of these. -/
def said (given : List Given) : Options := given.foldr (fun g rest => g.meaning ++ rest) {}

/-! ## Reading one argument -/

/-- A name in full always means itself. -/
theorem ofLongName?_full :
    ∀ entry ∈ OptionKind.longNames,
      OptionKind.ofLongName? (ofText entry.1) = some entry.2 := by
  decide +kernel

/-- A long name is not empty, and an equals sign after it is the first one. -/
theorem longName_uncut :
    ∀ entry ∈ OptionKind.longNames, ofText entry.1 ≠ [] ∧ equals ∉ ofText entry.1 := by
  decide +kernel

theorem read_long (body : Bytes) (some : body ≠ []) :
    Argument.read ([dash, dash] ++ body) = Argument.readLong body := by
  obtain ⟨b, rest, rfl⟩ := List.exists_cons_of_ne_nil some
  rfl

section

variable {name : Bytes} {setting : Setting}

/-- The value of a setting begins after the first equals sign. -/
theorem readLong_assigns (means : OptionKind.ofLongName? name = some (.setting setting))
    (uncut : equals ∉ name) (value : Bytes) :
    Argument.readLong (name ++ equals :: value) = .assigns [] setting value := by
  rw [Argument.readLong, Pieces.cut_cons_of_not_mem uncut]
  simp only [means]

/-- Without an equals sign the value of a setting is still to come. -/
theorem readLong_expects (means : OptionKind.ofLongName? name = some (.setting setting))
    (uncut : equals ∉ name) :
    Argument.readLong name = .expects [] setting ("--" ++ Utf8.lossy name) := by
  rw [Argument.readLong, Pieces.cut_of_not_mem uncut]
  simp only [means]

end

variable {spelled : OptionKind → String}

theorem read_switch (full : ∀ kind, (spelled kind, kind) ∈ OptionKind.longNames) (s : Switch) :
    Argument.read ((Given.switch s).argument spelled) = .switches [s] := by
  have means := ofLongName?_full _ (full (.switch s))
  obtain ⟨named, uncut⟩ := longName_uncut _ (full (.switch s))
  have shape : (Given.switch s).argument spelled =
      [dash, dash] ++ ofText (spelled (.switch s)) := List.append_nil _
  rw [shape, read_long _ named, Argument.readLong, Pieces.cut_of_not_mem uncut]
  simp only [means]

/-- No name contains an equals sign, so whatever the value is, it begins in the same place. -/
theorem read_value (full : ∀ kind, (spelled kind, kind) ∈ OptionKind.longNames)
    (setting : Setting) (bytes : Bytes) :
    Argument.read ((Given.value setting bytes).argument spelled) =
      .assigns [] setting bytes := by
  have means := ofLongName?_full _ (full (.setting setting))
  obtain ⟨-, uncut⟩ := longName_uncut _ (full (.setting setting))
  have shape : (Given.value setting bytes).argument spelled =
      [dash, dash] ++ (ofText (spelled (.setting setting)) ++ equals :: bytes) :=
    List.append_assoc ..
  rw [shape, read_long _ (List.append_ne_nil_of_right_ne_nil _ (List.cons_ne_nil _ _)),
    readLong_assigns means uncut]

/-- Every value is taken, except for a timeout, which must be a number. -/
theorem ofSetting_meaning (setting : Setting) (bytes : Bytes) (untimed : setting ≠ .timeout) :
    ofSetting setting bytes = .ok (Given.value setting bytes).meaning := by
  cases setting with
  | timeout => exact absurd rfl untimed
  | _ => rfl

/-- Arguments by long names are read one by one, and nothing after the end of options is
read at all. -/
theorem parse_arguments (full : ∀ kind, (spelled kind, kind) ∈ OptionKind.longNames)
    {given : List Given} (untimed : ∀ bytes, Given.value .timeout bytes ∉ given)
    (items : List Bytes) :
    parse (given.map (Given.argument spelled) ++ [dash, dash] :: items) =
      .ok (said given ++ { items := items }) := by
  induction given with
  | nil => exact congrArg Except.ok (empty_append _).symm
  | cons g rest ih =>
      have later := ih fun bytes found => untimed bytes (List.mem_cons_of_mem g found)
      rw [List.map_cons, List.cons_append, said, List.foldr_cons, ← said, append_assoc]
      cases g with
      | switch s =>
          have alone : ofSwitches [s] = ofSwitch s := append_empty _
          unfold parse
          simp only [read_switch full s, later, alone]
          rfl
      | value setting bytes =>
          have other : setting ≠ .timeout :=
            fun same => untimed bytes (same ▸ List.mem_cons_self)
          have alone : ofSwitches [] ++ (Given.value setting bytes).meaning =
            (Given.value setting bytes).meaning := empty_append _
          unfold parse
          simp only [read_value full setting bytes, later, ofSetting_meaning setting bytes other]
          exact congrArg (fun first => Except.ok (first ++ _)) alone

/-! ## What all arguments say together -/

theorem has_said (given : List Given) (s : Switch) :
    (said given).has s = given.any (·.meaning.has s) := by
  induction given with
  | nil => cases s <;> rfl
  | cons g rest ih => rw [said, List.foldr_cons, ← said, has_append, ih, List.any_cons]

theorem value?_said_none {given : List Given}
    (silent : ∀ g ∈ given, g.meaning.value? setting = none) :
    (said given).value? setting = none := by
  induction given with
  | nil => cases setting <;> rfl
  | cons g rest ih =>
      have later := ih fun g found => silent g (List.mem_cons_of_mem _ found)
      rw [said, List.foldr_cons, ← said, value?_append, later, silent g List.mem_cons_self]
      rfl

/-- A value that some argument gives, and no argument contradicts. -/
theorem value?_said {given : List Given} {bytes : Bytes}
    (agree : ∀ g ∈ given, ∀ other, g.meaning.value? setting = some other → other = bytes)
    (there : ∃ g ∈ given, g.meaning.value? setting = some bytes) :
    (said given).value? setting = some bytes := by
  induction given with
  | nil => nomatch there
  | cons g rest ih =>
      have agreeLater := fun g found => agree g (List.mem_cons_of_mem _ found)
      rw [said, List.foldr_cons, ← said, value?_append]
      by_cases later : ∃ g ∈ rest, g.meaning.value? setting = some bytes
      · rw [ih agreeLater later, Option.some_or]
      · have silent : ∀ g ∈ rest, g.meaning.value? setting = none := by
          intro g found
          cases given : g.meaning.value? setting with
          | none => rfl
          | some other =>
              have same := agreeLater g found other given
              exact absurd ⟨g, found, same ▸ given⟩ later
        have here : g.meaning.value? setting = some bytes := by
          obtain ⟨found, member, gives⟩ := there
          rcases List.mem_cons.mp member with rfl | member
          · exact gives
          · exact absurd ⟨found, member, gives⟩ later
        rw [value?_said_none silent, Option.none_or, here]

theorem has_meaning_switch {t : Switch} :
    (Given.switch t).meaning.has s = true ↔ s = t ∨ t = .terminal ∧ s = .createFrame := by
  cases t <;> cases s <;> decide

theorem has_meaning_value {bytes : Bytes} (gives : o.Gives (.value setting bytes)) :
    (Given.value setting bytes).meaning.has s = true ↔ setting = .parentId ∧ s = .createFrame := by
  cases setting with
  | timeout => nomatch gives
  | _ => cases s <;> simp [Given.meaning, ofSetting, Except.toOption, has]

theorem value?_meaning_switch {t : Switch} : (Given.switch t).meaning.value? setting = none := by
  cases t <;> cases setting <;> rfl

/-- Text that was written in UTF-8 is read back as the same text. -/
theorem value?_meaning_value {bytes : Bytes} {other : Setting}
    (gives : o.Gives (.value setting bytes)) :
    (Given.value setting bytes).meaning.value? other =
      if other = setting then some bytes else none := by
  have text {field : Option String} (written : field.map ofText = some bytes) :
      ofText (Utf8.lossy bytes) = bytes := by
    obtain ⟨text, -, rfl⟩ := Option.map_eq_some_iff.mp written
    rw [Utf8.lossy_ofText]
  cases setting with
  | timeout => nomatch gives
  | socketName | serverFile => cases other <;> rfl
  | _ => cases other <;> simp [Given.meaning, ofSetting, Except.toOption, value?, text gives]

/-! ## Reading what was given -/

/-- What a command line makes of these options: a new frame is asked for where it is
implied, and a timeout is not given. -/
def completed (o : Options) : Options :=
  { o with
    createFrame := o.createFrame || o.terminal || o.parentId.isSome
    timeout := none }

theorem completed_eq_iff : o.completed = o ↔ o.Coherent ∧ o.timeout = none := by
  constructor
  · intro same
    have created : (o.createFrame || o.terminal || o.parentId.isSome) = o.createFrame :=
      congrArg createFrame same
    refine ⟨⟨fun terminal => ?_, fun inside => ?_⟩, (congrArg timeout same).symm⟩
    · rw [← created, terminal, Bool.or_true, Bool.true_or]
    · rw [← created, inside, Bool.or_true]
  · rintro ⟨coherent, untimed⟩
    refine eq_of_has_value? (fun s => ?_) (fun setting => by cases setting <;> rfl)
      untimed.symm rfl
    cases s with
    | createFrame =>
        show (o.createFrame || o.terminal || o.parentId.isSome) = o.createFrame
        rw [Bool.or_assoc, Bool.or_eq_left_iff_imp]
        intro implied
        exact ((Bool.or_eq_true _ _).mp implied).elim coherent.terminal coherent.parentId
    | _ => rfl

/-- A switch is on in the end if it is given or something is given that implies it. -/
theorem has_completed : o.completed.has s = true ↔ ∃ g, o.Gives g ∧ g.meaning.has s = true := by
  constructor
  · intro on
    by_cases given : o.has s = true
    · exact ⟨.switch s, given, has_meaning_switch.mpr (.inl rfl)⟩
    · cases s with
      | createFrame =>
          have implied : (o.terminal || o.parentId.isSome) = true := by
            have : (o.createFrame || o.terminal || o.parentId.isSome) = true := on
            rw [Bool.or_assoc, Bool.or_eq_true] at this
            exact this.resolve_left given
          rcases (Bool.or_eq_true _ _).mp implied with terminal | inside
          · exact ⟨.switch .terminal, terminal, rfl⟩
          · obtain ⟨id, there⟩ := Option.isSome_iff_exists.mp inside
            have gives : o.Gives (.value .parentId (ofText id)) := by
              rw [Gives, value?, there, Option.map_some]
            exact ⟨_, gives, (has_meaning_value gives).mpr ⟨rfl, rfl⟩⟩
      | _ => exact absurd on given
  · rintro ⟨g, gives, on⟩
    cases g with
    | switch t =>
        rcases has_meaning_switch.mp on with rfl | ⟨rfl, rfl⟩
        · cases s with
          | createFrame =>
              have created : o.createFrame = true := gives
              simp [completed, has, created]
          | _ => exact gives
        · have terminal : o.terminal = true := gives
          simp [completed, has, terminal]
    | value setting bytes =>
        obtain ⟨rfl, rfl⟩ := (has_meaning_value gives).mp on
        have inside : o.parentId.isSome = true := by
          obtain ⟨id, there, -⟩ := Option.map_eq_some_iff.mp gives
          rw [there, Option.isSome_some]
        simp [completed, has, inside]

/-- What is given is neither a timeout nor an item. -/
theorem said_plain {given : List Given} (listed : ∀ g ∈ given, o.Gives g) :
    (said given).timeout = none ∧ (said given).items = [] := by
  have one {g : Given} (gives : o.Gives g) : g.meaning.timeout = none ∧ g.meaning.items = [] := by
    cases g with
    | switch t => cases t <;> exact ⟨rfl, rfl⟩
    | value setting bytes =>
        cases setting with
        | timeout => nomatch gives
        | _ => exact ⟨rfl, rfl⟩
  induction given with
  | nil => exact ⟨rfl, rfl⟩
  | cons g rest ih =>
      obtain ⟨untimed, unnamed⟩ := one (listed g List.mem_cons_self)
      obtain ⟨untimedLater, unnamedLater⟩ :=
        ih fun g found => listed g (List.mem_cons_of_mem _ found)
      have timeouts : (said (g :: rest)).timeout = (said rest).timeout.or g.meaning.timeout := rfl
      have items : (said (g :: rest)).items = g.meaning.items ++ (said rest).items := rfl
      rw [timeouts, items, untimed, unnamed, untimedLater, unnamedLater]
      exact ⟨rfl, rfl⟩

section

variable {given : List Given} (listed : ∀ g, g ∈ given ↔ o.Gives g)

include listed

/-- The one argument for a setting decides its value. -/
theorem value?_said_of_listed : (said given).value? setting = o.value? setting := by
  cases there : o.value? setting with
  | none =>
      refine value?_said_none fun g found => ?_
      cases g with
      | switch t => exact value?_meaning_switch
      | value other bytes =>
          have gives := (listed _).mp found
          rw [value?_meaning_value gives, if_neg]
          rintro rfl
          exact nomatch there.symm.trans gives
  | some bytes =>
      have gives : o.Gives (.value setting bytes) := there
      refine value?_said (fun g found other told => ?_) ⟨_, (listed _).mpr gives, ?_⟩
      · cases g with
        | switch t => exact nomatch value?_meaning_switch.symm.trans told
        | value another value =>
            have givesValue := (listed _).mp found
            rw [value?_meaning_value givesValue] at told
            split at told
            case isTrue here =>
                subst here
                exact Option.some.inj (told.symm.trans (givesValue.symm.trans there))
            case isFalse => nomatch told
      · rw [value?_meaning_value gives, if_pos rfl]

/-- A list that gives exactly what these options give says what they say. -/
theorem said_eq_completed : said given ++ { items := o.items } = o.completed := by
  obtain ⟨untimed, unnamed⟩ := said_plain fun g found => (listed g).mp found
  refine eq_of_has_value? (fun s => ?_) (fun setting => ?_) ?_ (congrArg (· ++ o.items) unnamed)
  · have nothing : ({ items := o.items } : Options).has s = false := by cases s <;> rfl
    rw [has_append, nothing, Bool.or_false, has_said, Bool.eq_iff_iff, List.any_eq_true,
      has_completed]
    simp only [listed]
  · have nothing : ({ items := o.items } : Options).value? setting = none := by
      cases setting <;> rfl
    have same : o.completed.value? setting = o.value? setting := by cases setting <;> rfl
    rw [value?_append, nothing, Option.none_or, same, value?_said_of_listed listed]
  · have last : (said given ++ { items := o.items }).timeout = (said given).timeout :=
      Option.none_or
    exact last.trans untimed

end

/-- The arguments that give these options by long names, the end of options, and the
items as they are. -/
def commandLine (spelled : OptionKind → String) (given : List Given) (items : List Bytes) :
    List Bytes :=
  given.map (Given.argument spelled) ++ [dash, dash] :: items

/-- In whatever order they are given, options without a timeout that ask for a new frame
wherever something they ask for implies one come back unchanged, and no others do. Values
and items can be any bytes, also those that would mean something in another place. -/
theorem parse_commandLine_eq_ok_iff {given : List Given}
    (full : ∀ kind, (spelled kind, kind) ∈ OptionKind.longNames)
    (listed : given.Perm o.givens) :
    parse (commandLine spelled given o.items) = .ok o ↔ o.Coherent ∧ o.timeout = none := by
  have member (g : Given) : g ∈ given ↔ o.Gives g := listed.mem_iff.trans mem_givens
  have untimed (bytes : Bytes) : Given.value .timeout bytes ∉ given :=
    fun found => nomatch (member _).mp found
  rw [commandLine, parse_arguments full untimed, said_eq_completed member, Except.ok.injEq,
    completed_eq_iff]

/-- Values that look like assignments and options, that are empty or no text, and items
that look like options. -/
theorem parse_misleading_values :
    let items := [ofText "--help", [dash, dash], ofText "-q", []]
    let o : Options :=
      { terminal := true, createFrame := true, display := some "=--eval",
        socketName := some [], serverFile := some [0xFF, equals, dash],
        alternateEditor := some "-n", items }
    let spelled : OptionKind → String := fun kind =>
      if kind = .switch .terminal then "nw"
      else ((OptionKind.longNames.map Prod.swap).lookup kind).getD ""
    let given : List Given :=
      [.value .display (ofText "=--eval"), .switch .terminal, .value .socketName [],
        .value .serverFile [0xFF, equals, dash], .switch .createFrame,
        .value .alternateEditor (ofText "-n")]
    let args :=
      [ofText "--display==--eval", ofText "--nw", ofText "--socket-name=",
        ofText "--server-file=" ++ [0xFF, equals, dash], ofText "--create-frame",
        ofText "--alternate-editor=-n", [dash, dash]]
    commandLine spelled given items = args ++ items ∧ parse (args ++ items) = .ok o := by
  intro items o spelled given args
  have full : ∀ kind, (spelled kind, kind) ∈ OptionKind.longNames := by
    rintro (s | s) <;> cases s <;> decide
  have listed : given.Perm o.givens := by decide +kernel
  have written : commandLine spelled given items = args ++ items := by decide +kernel
  have read : parse (commandLine spelled given o.items) = .ok o :=
    (parse_commandLine_eq_ok_iff full listed).mpr ⟨.of_createFrame rfl, rfl⟩
  exact ⟨written, written ▸ read⟩

end Options

end EditorClient
