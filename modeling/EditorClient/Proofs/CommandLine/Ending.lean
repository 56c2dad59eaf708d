/-
# How a run of the program ends

Whatever a run finds around it, and however its standard streams fail: unless an alternate editor
took its place, its status is 0 exactly if the program was asked about itself and could print the
answer, or if a session ended as it should. Otherwise the status is 1, and a message was written
to standard error, which is not only what the search had to tell. The exception is a line of the
program itself that could not be written: it breaks the program off (`Unwritten`). Where
everything can be written, there is no exception (`Unwritten.not_writable`).

An alternate editor is handed the items exactly where a run with a configuration comes to no
outcome of a session: no server is found, or an error ends the run, for instance that its output
cannot be written. `Stops` lists these places.
-/

import EditorClient.Proofs.CommandLine.Messages
import EditorClient.Proofs.CommandLine.Writable
import EditorClient.Proofs.Options.Implied
import EditorClient.Proofs.Server.Course

namespace EditorClient.CommandLine

variable {σ : Type} {w : Surroundings σ} {i : Invocation} {c : Config}

/-! ## Where a run stops -/

/-- The command line leads to a run with this configuration. -/
def Configures (i : Invocation) (c : Config) : Prop :=
  ∃ options, Options.parse i.args = .ok options ∧ options.showVersion = false ∧
    options.showHelp = false ∧ asksNothing options = false ∧
    Config.resolve (programName i) options i.env (workingDirectory i) = .ok c

/-- The answer to what the program was asked about itself. -/
def answerTo (i : Invocation) (options : Options) : Bytes :=
  Bytes.ofText (if options.showVersion then version else usage (programName i))

/-- The program was asked about itself, and printed this answer. -/
def Informed (w : Surroundings σ) (i : Invocation) (output : Bytes) : Prop :=
  ∃ options, Options.parse i.args = .ok options ∧
    (options.showVersion = true ∨ options.showHelp = true) ∧
    (w.stdout w.start).failure (answerTo i options) = none ∧ output = answerTo i options

/-- Where a run with a configuration stops: at the outcome of a session, or without one, after
an error if there is one. The state is that of the search, and standard error is as the run has
left it so far. -/
inductive Stops (w : Surroundings σ) (i : Invocation) (c : Config) :
    σ → Sink → Except (Option ClientError) Outcome → Prop
  /-- The search for a server fails, and not for want of a line that it could not print. -/
  | search {error : ClientError} {s : Search σ}
      (failed : Search.establish (w.seeker c) c { state := w.start } = .error error s)
      (whole : w.brokenOff s.state = none) :
      Stops w i c s.state (w.stderr s.state) (.error (some error))
  /-- There is no server. -/
  | unavailable {s : Search σ}
      (searched : Search.establish (w.seeker c) c { state := w.start } = .ok .unavailable s) :
      Stops w i c s.state (w.stderr s.state) (.error none)
  /-- There is a server, and the current directory is not known. -/
  | directory {link : Link} {s : Search σ} {error : IoError}
      (found : Search.establish (w.seeker c) c { state := w.start } = .ok (.connected link) s)
      (unknown : i.directory = .error error) :
      Stops w i c s.state (w.stderr s.state) (.error (some (.workingDirectory error)))
  /-- The session fails. -/
  | session {link : Link} {s : Search σ} {directory : Bytes} {error : ClientError}
      (found : Search.establish (w.seeker c) c { state := w.start } = .ok (.connected link) s)
      (known : i.directory = .ok directory)
      (failed : (sessionOver w i c s.state link).result = .error error) :
      Stops w i c s.state (sessionOver w i c s.state link).stderr (.error (some error))
  /-- The session comes to an outcome. -/
  | outcome {link : Link} {s : Search σ} {directory : Bytes} {outcome : Outcome}
      (found : Search.establish (w.seeker c) c { state := w.start } = .ok (.connected link) s)
      (known : i.directory = .ok directory)
      (ended : (sessionOver w i c s.state link).result = .ok outcome) :
      Stops w i c s.state (sessionOver w i c s.state link).stderr (.ok outcome)

/-- A run stops at one place only. -/
theorem Stops.unique {s s' : σ} {stderr stderr' : Sink}
    {result result' : Except (Option ClientError) Outcome} (stops : Stops w i c s stderr result)
    (stops' : Stops w i c s' stderr' result') : s = s' ∧ stderr = stderr' ∧ result = result' := by
  cases stops <;> cases stops' <;> simp_all

theorem Configures.unique {c' : Config} (configures : Configures i c)
    (configures' : Configures i c') : c = c' := by
  obtain ⟨options, parsed, -, -, -, resolved⟩ := configures
  obtain ⟨options', parsed', -, -, -, resolved'⟩ := configures'
  cases parsed.symm.trans parsed'
  cases resolved.symm.trans resolved'
  rfl

/-- A configuration keeps the name of the program. -/
theorem program_of_resolve {program : String} {options : Options} {env : Environment}
    {directory : Bytes} (resolved : Config.resolve program options env directory = .ok c) :
    c.program = program := (Config.resolves_of_resolve resolved).program

theorem program_of_configures (configures : Configures i c) : c.program = programName i := by
  obtain ⟨options, -, -, -, -, resolved⟩ := configures
  exact program_of_resolve resolved

/-! ## Messages -/

/-- A message on standard error that tells why a run fails. -/
inductive Explains (program : String) : Bytes → Prop
  /-- A line of the program. -/
  | complaint (text : String) : Explains program (complaint program text)
  /-- What was asked could not be printed. -/
  | unprinted (context : String) (error : IoError) : Explains program (unprinted context error)
  /-- An error that the server reported. -/
  | reported {line text : Bytes} (reply : Reply.parse line = .error text) :
      Explains program (errorMark ++ text)

/-- Such a message is part of what was written. -/
def Tells (program : String) (errors : Bytes) : Prop :=
  ∃ message, Explains program message ∧ message <:+: errors

/-- A line of the program itself. -/
inductive Line (program : String) : Bytes → Prop
  | complaint (text : String) : Line program (complaint program text)
  | hint : Line program (hint program)

/-- Standard error as a run comes to it: as it is at first, where the run stops, and after each
line of the program that it took. -/
inductive Reaches (w : Surroundings σ) (i : Invocation) : Sink → Prop
  | atStart : Reaches w i (w.stderr w.start)
  | stopped {c : Config} {s : σ} {stderr : Sink} {result : Except (Option ClientError) Outcome}
      (configures : Configures i c) (stops : Stops w i c s stderr result) : Reaches w i stderr
  | told {stderr : Sink} {line : Bytes} (before : Reaches w i stderr)
      (own : Line (programName i) line) (works : stderr.failure line = none) :
      Reaches w i (stderr.after line)

/-- What becomes of a run in which a line of the program itself could not be written, with this
error. -/
inductive Unwritten (w : Surroundings σ) (i : Invocation) (error : IoError) (f : Finish) : Prop
  /-- A line on standard error is the last thing there, as far as it was taken, and the program
  is broken off. -/
  | line {stderr : Sink} {line : Bytes} (there : Reaches w i stderr)
      (own : Line (programName i) line) (fails : stderr.failure line = some error)
      (last : stderr.taken line <:+ f.errors) (status : f.status = brokenOffStatus)
  /-- The report about an answer that could not be printed comes when the program is over. -/
  | report {context : String} {cause : IoError}
      (fails : (w.stderr w.start).failure (unprinted context cause) = some error)
      (status : f.status = 1)
  /-- The search broke the program off. -/
  | search {c : Config} {unfound : ClientError} {s : Search σ} (configures : Configures i c)
      (failed : Search.establish (w.seeker c) c { state := w.start } = .error unfound s)
      (broken : w.brokenOff s.state = some error) (status : f.status = brokenOffStatus)

/-- Where everything can be written, standard error takes everything wherever a run stops. -/
theorem Stops.takesAll {s : σ} {stderr : Sink} {result : Except (Option ClientError) Outcome}
    (stops : Stops w i c s stderr result) (writable : Writable w) : stderr.TakesAll := by
  have searched := writable.searched c
  cases stops with
  | search failed whole =>
      rw [failed] at searched
      exact searched.failed_of_error.1
  | unavailable found | directory found unknown =>
      rw [found] at searched
      exact searched.post_of_ok
  | session found known failed | outcome found known ended =>
      rw [found] at searched
      exact takesAll_sessionOver searched.post_of_ok _

/-- It does so at every moment. The induction is on the lines of the program. -/
theorem Reaches.takesAll {stderr : Sink} (there : Reaches w i stderr) (writable : Writable w) :
    stderr.TakesAll := by
  induction there with
  | atStart => exact writable.atStart
  | stopped configures stops => exact stops.takesAll writable
  | told before own works takes => exact Sink.takesAll_after takes _

/-- So no line of the program is missing. -/
theorem Unwritten.not_writable {error : IoError} {f : Finish} (unwritten : Unwritten w i error f) :
    ¬ Writable w := by
  intro writable
  cases unwritten with
  | line there own fails =>
      exact absurd (((there.takesAll writable).failure_eq _).symm.trans fails) nofun
  | report fails => exact absurd ((writable.atStart.failure_eq _).symm.trans fails) nofun
  | @search c _ _ configures failed broken =>
      have searched := writable.searched c
      rw [failed] at searched
      exact absurd (searched.failed_of_error.2.symm.trans broken) nofun

/-- The status of a run says whether it worked. A run that failed has told why, unless a line of
the program itself could not be written. -/
structure Accounted (w : Surroundings σ) (i : Invocation) (f : Finish) (worked : Prop) :
    Prop where
  worked : f.status = 0 ↔ worked
  status : f.unwritten = none → f.status = 0 ∨ f.status = 1
  told : f.unwritten = none → f.status = 1 → Tells (programName i) f.errors
  unwritten : ∀ error, f.unwritten = some error → Unwritten w i error f
  /-- Where everything can be written, no line of the program is missing. -/
  written : Writable w → f.unwritten = none

theorem Unwritten.status_ne_zero {error : IoError} {f : Finish}
    (unwritten : Unwritten w i error f) : f.status ≠ 0 := by
  cases unwritten with
  | line _ _ _ _ status | report _ status | search _ _ _ status =>
      rw [status]
      decide

theorem accounted_of_success {f : Finish} {worked : Prop} (status : f.status = 0)
    (written : f.unwritten = none) (works : worked) : Accounted w i f worked where
  worked := ⟨fun _ => works, fun _ => status⟩
  status _ := .inl status
  told _ failed := by
    rw [status] at failed
    nomatch failed
  unwritten _ broken := by
    rw [written] at broken
    nomatch broken
  written _ := written

/-- A run that has failed, with a message or for want of one. -/
theorem accounted_of_failure {f : Finish} {worked : Prop} (fails : ¬ worked)
    (told : f.unwritten = none → f.status = 1 ∧ Tells (programName i) f.errors)
    (unwritten : ∀ error, f.unwritten = some error → Unwritten w i error f) :
    Accounted w i f worked where
  worked := by
    refine ⟨fun success => ?_, fun works => absurd works fails⟩
    cases lost : f.unwritten with
    | none =>
        rw [(told lost).1] at success
        nomatch success
    | some error => exact absurd success (unwritten error lost).status_ne_zero
  status written := .inr (told written).1
  told written _ := (told written).2
  unwritten := unwritten
  written writable :=
    Option.eq_none_iff_forall_ne_some.mpr fun error lost =>
      (unwritten error lost).not_writable writable

/-! ## Runs without a configuration -/

/-- A run that ends with a line of the program, if that can be written. -/
structure EndsWith (w : Surroundings σ) (i : Invocation) (line : Bytes) (f : Finish) : Prop where
  status : f.unwritten = none → f.status = 1
  told : f.unwritten = none → line <:+ f.errors
  unwritten : ∀ error, f.unwritten = some error → Unwritten w i error f

theorem tellLast_endsWith {line : Bytes} (own : Line (programName i) line) {stderr : Sink}
    (there : Reaches w i stderr) {soFar : Finish} (failed : soFar.status = 1)
    (written : soFar.unwritten = none) : EndsWith w i line (tellLast stderr line soFar) := by
  rw [tellLast, tell]
  cases fails : stderr.failure line with
  | none =>
      refine ⟨fun _ => failed, fun _ => ?_, fun error lost => ?_⟩
      · rw [Sink.taken_of_works fails]
        exact List.suffix_append _ _
      · exact absurd (written.symm.trans lost) nofun
  | some error =>
      refine ⟨nofun, nofun, ?_⟩
      rintro _ ⟨⟩
      exact .line there own fails (List.suffix_append _ _) rfl

theorem misuse_accounted {stderr : Sink} (there : Reaches w i stderr) (text : String)
    {worked : Prop} (fails : ¬ worked) :
    Accounted w i (misuse stderr (programName i) text) worked := by
  rw [misuse, tell]
  cases lost : stderr.failure (complaint (programName i) text) with
  | some error =>
      refine accounted_of_failure fails nofun ?_
      rintro _ ⟨⟩
      exact .line there (.complaint text) lost (List.suffix_append _ _) rfl
  | none =>
      have later := there.told (.complaint text) lost
      dsimp only
      rw [Sink.taken_of_works lost, tellLast, tell]
      cases unhinted : (stderr.after (complaint (programName i) text)).failure
          (hint (programName i)) with
      | some error =>
          refine accounted_of_failure fails nofun ?_
          rintro _ ⟨⟩
          exact .line later .hint unhinted (List.suffix_append _ _) rfl
      | none =>
          refine accounted_of_failure fails (fun _ => ⟨rfl, _, .complaint text, ?_⟩) nofun
          exact List.infix_append [] _ _

theorem inform_accounted (w : Surroundings σ) (i : Invocation) (context text : String) :
    let f := inform (w.stdout w.start) (w.stderr w.start) context text
    Accounted w i f
      ((w.stdout w.start).failure (Bytes.ofText text) = none ∧ f.output = Bytes.ofText text) := by
  dsimp only
  rw [inform]
  cases printed : (w.stdout w.start).failure (Bytes.ofText text) with
  | none => exact accounted_of_success rfl rfl ⟨rfl, Sink.taken_of_works printed⟩
  | some cause =>
      refine accounted_of_failure nofun (fun written => ⟨rfl, _, .unprinted context cause, ?_⟩) ?_
      · have works : (w.stderr w.start).failure (unprinted context cause) = none := written
        have whole := Sink.taken_of_works works
        exact whole.symm ▸ List.infix_rfl
      · intro error lost
        have fails : (w.stderr w.start).failure (unprinted context cause) = some error := lost
        exact .report fails rfl

theorem inform_handover (stdout stderr : Sink) (context text : String) :
    (inform stdout stderr context text).handover = none := by
  rw [inform]
  split <;> rfl

theorem tellLast_handover (stderr : Sink) (line : Bytes) (soFar : Finish) :
    (tellLast stderr line soFar).handover = soFar.handover := by
  rw [tellLast, tell]
  split <;> rfl

theorem misuse_handover (stderr : Sink) (program text : String) :
    (misuse stderr program text).handover = none := by
  rw [misuse, tell]
  split
  · exact tellLast_handover _ _ _
  · rfl

/-- What options ask about the program, and whether the answer was printed. -/
theorem informed_iff {options : Options} (parsed : Options.parse i.args = .ok options)
    (output : Bytes) :
    Informed w i output ↔ (options.showVersion = true ∨ options.showHelp = true) ∧
      (w.stdout w.start).failure (answerTo i options) = none ∧ output = answerTo i options := by
  constructor
  · rintro ⟨options', parsed', answer⟩
    cases parsed.symm.trans parsed'
    exact answer
  · exact fun answer => ⟨options, parsed, answer⟩

/-- A run without a configuration: nothing is handed over, and it works if it was to inform. -/
structure Unconfigured (w : Surroundings σ) (i : Invocation) (f : Finish) : Prop where
  unsettled : ∀ c, ¬ Configures i c
  kept : f.handover = none
  accounted : Accounted w i f (Informed w i f.output)

/-- What options lead to, as far as there is no configuration. -/
theorem unconfigured_of_parsed {options : Options} {f : Finish}
    (parsed : Options.parse i.args = .ok options) (kept : f.handover = none)
    (ended : options.showVersion = true ∨ options.showHelp = true ∨ asksNothing options = true ∨
      ∃ error,
        Config.resolve (programName i) options i.env (workingDirectory i) = .error error)
    (accounted : Accounted w i f
      ((options.showVersion = true ∨ options.showHelp = true) ∧
        (w.stdout w.start).failure (answerTo i options) = none ∧
          f.output = answerTo i options)) :
    Unconfigured w i f where
  unsettled := by
    rintro c ⟨options', parsed', noVersion, noHelp, wanted, resolved⟩
    cases parsed.symm.trans parsed'
    simp [noVersion, noHelp, wanted, resolved] at ended
  kept := kept
  accounted := by
    rwa [informed_iff parsed]

/-- A run has a configuration by which it goes on, or ends without one. -/
theorem runIn_cases (w : Surroundings σ) (i : Invocation) :
    (∃ c, Configures i c ∧ runIn w i = connect w i c) ∨ Unconfigured w i (runIn w i) := by
  unfold runIn
  cases parsed : Options.parse i.args with
  | error error =>
      have unread (options : Options) : Options.parse i.args ≠ .ok options := by
        rw [parsed]
        exact nofun
      exact .inr ⟨fun c ⟨_, read, _⟩ => unread _ read, misuse_handover _ _ _,
        misuse_accounted .atStart _ fun ⟨_, read, _⟩ => unread _ read⟩
  | ok options =>
      dsimp only
      by_cases asksVersion : options.showVersion = true
      · have answers := inform_accounted w i "failed to print version" version
        rw [if_pos asksVersion]
        refine .inr (unconfigured_of_parsed parsed (inform_handover _ _ _ _) (.inl asksVersion) ?_)
        simpa only [answerTo, asksVersion, true_or, true_and, if_true] using answers
      rw [if_neg asksVersion]
      by_cases asksHelp : options.showHelp = true
      · have answers :=
          inform_accounted w i "failed to print usage" (usage (programName i))
        rw [if_pos asksHelp]
        refine .inr (unconfigured_of_parsed parsed (inform_handover _ _ _ _)
          (.inr (.inl asksHelp)) ?_)
        simpa only [answerTo, asksHelp, or_true, true_and, if_neg asksVersion] using answers
      rw [if_neg asksHelp]
      have other {answered : Prop} :
          ¬ ((options.showVersion = true ∨ options.showHelp = true) ∧ answered) :=
        fun informed => informed.1.elim asksVersion asksHelp
      by_cases nothing : asksNothing options = true
      · rw [if_pos nothing]
        exact .inr (unconfigured_of_parsed parsed (misuse_handover _ _ _)
          (.inr (.inr (.inl nothing))) (misuse_accounted .atStart _ other))
      rw [if_neg nothing]
      cases resolved : Config.resolve (programName i) options i.env (workingDirectory i) with
      | error error =>
          have ends : EndsWith w i (complaint (programName i) error.message)
              (tellLast (w.stderr w.start) (complaint (programName i) error.message)
                { status := 1 }) := tellLast_endsWith (.complaint _) .atStart rfl rfl
          exact .inr (unconfigured_of_parsed parsed (tellLast_handover _ _ _)
            (.inr (.inr (.inr ⟨error, resolved⟩)))
            (accounted_of_failure other (fun written => ⟨ends.status written, _,
              .complaint error.message, (ends.told written).isInfix⟩) ends.unwritten))
      | ok c =>
          simp only [Bool.not_eq_true] at asksVersion asksHelp nothing
          exact .inl ⟨c, ⟨options, parsed, asksVersion, asksHelp, nothing, resolved⟩, rfl⟩

/-! ## The alternate editor -/

/-- The alternate editor took the place of the program. -/
def Replaced (f : Finish) : Prop := ∃ h, f.handover = some h ∧ h.failure = none

/-- How the alternate editor came to take over, where the search had come to this state, and
after this error if there was one. -/
structure TakesOver (w : Surroundings σ) (c : Config) (s : σ) (error : Option ClientError)
    (f : Finish) (h : Handover) : Prop where
  /-- The words of its command are followed by the items. -/
  command : ∃ editor, c.alternateEditor = some editor ∧ editor ≠ "" ∧
    h.command = (AlternateEditor.words editor).map Bytes.ofText ++ c.items
  /-- The error was reported last before. -/
  told : ∀ e, error = some e → complaint c.program e.message <:+ h.told
  /-- It takes the place of the program exactly if it can be run. The status is its own then. -/
  ran : h.failure = none ↔ AlternateEditor.refusal c = none ∧
    ∃ result, w.replace s h.command = .ok result ∧ f.status = result.status

/-- What a run leaves that comes to no outcome of a session. -/
structure FallsBack (w : Surroundings σ) (i : Invocation) (c : Config) (s : σ) (stderr : Sink)
    (error : Option ClientError) (f : Finish) : Prop where
  /-- There is an attempt to hand over exactly if there is an alternate editor, and the error
  could be reported. -/
  tries : f.handover.isSome ↔ stderr.failure (reportOf c.program error) = none ∧
    ∃ editor, c.alternateEditor = some editor ∧ editor ≠ ""
  takesOver : ∀ h, f.handover = some h → TakesOver w c s error f h
  status : ¬ Replaced f → f.unwritten = none → f.status = 1
  /-- The error was reported, and that the editor could not be run. -/
  told : ¬ Replaced f → f.unwritten = none → error.isSome ∨ f.handover.isSome →
    Tells (programName i) f.errors
  unwritten : ∀ lost, f.unwritten = some lost → Unwritten w i lost f

/-- Whether there is an alternate editor. -/
theorem exists_editor_iff (c : Config) :
    (∃ editor, c.alternateEditor = some editor ∧ editor ≠ "") ↔
      c.alternateEditor.getD "" ≠ "" := by
  cases c.alternateEditor with
  | none => simp
  | some editor => simp

theorem handOver_eq_ok {replace : List Bytes → Except IoError Script.Result}
    {result : Script.Result} :
    handOver replace c = .ok result ↔
      AlternateEditor.refusal c = none ∧ replace (AlternateEditor.commandLine c) = .ok result := by
  rw [handOver]
  cases AlternateEditor.refusal c <;> simp

/-- A report tells of an error. -/
theorem line_of_report {error : Option ClientError} (nonempty : reportOf c.program error ≠ []) :
    Line c.program (reportOf c.program error) := by
  cases error with
  | some error => exact .complaint error.message
  | none => exact absurd rfl nonempty

/-- A report that was written, or that there was no need of, leaves standard error as a run comes
to it. -/
theorem Reaches.reported {stderr : Sink} {error : Option ClientError}
    (there : Reaches w i stderr) (program : c.program = programName i)
    (works : stderr.failure (reportOf c.program error) = none) :
    Reaches w i (stderr.after (reportOf c.program error)) := by
  by_cases empty : reportOf c.program error = []
  · rwa [empty, Sink.after_nil]
  · exact there.told (program ▸ line_of_report empty) works

/-- A run whose alternate editor could not be run ends with a message about that. -/
theorem fallsBack_of_refused {s : σ} {stderr stderr' : Sink} {error : Option ClientError}
    {tried : Finish} {h : Handover} {text : String} (program : c.program = programName i)
    (there : Reaches w i stderr') (handed : tried.handover = some h) (status : tried.status = 1)
    (written : tried.unwritten = none)
    (reports : stderr.failure (reportOf c.program error) = none)
    (editor : ∃ editor, c.alternateEditor = some editor ∧ editor ≠ "")
    (takesOver : ∀ f, TakesOver w c s error f h) :
    FallsBack w i c s stderr error (tellLast stderr' (complaint c.program text) tried) := by
  have kept : (tellLast stderr' (complaint c.program text) tried).handover = some h := by
    rw [tellLast_handover, handed]
  have ends : EndsWith w i (complaint c.program text)
      (tellLast stderr' (complaint c.program text) tried) :=
    tellLast_endsWith (program ▸ .complaint text) there status written
  refine ⟨?_, ?_, fun _ => ends.status, fun _ whole _ => ?_, ends.unwritten⟩
  · rw [kept]
    exact ⟨fun _ => ⟨reports, editor⟩, fun _ => rfl⟩
  · intro h' there
    rw [kept] at there
    cases there
    exact takesOver _
  · exact ⟨_, program ▸ .complaint text, (ends.told whole).isInfix⟩

theorem fail_fallsBack {s : σ} {stderr : Sink} {error : Option ClientError}
    (configures : Configures i c) (stops : Stops w i c s stderr (.error error)) {soFar : Finish}
    (held : Nat) (before : soFar.handover = none) (written : soFar.unwritten = none) :
    FallsBack w i c s stderr error (fail (w.replace s) c stderr soFar held error) := by
  have program := program_of_configures configures
  have there : Reaches w i stderr := .stopped configures stops
  rw [fail, tell]
  cases reports : stderr.failure (reportOf c.program error) with
  | some lost =>
      -- The error could not be reported: nothing comes after that.
      have nonempty : reportOf c.program error ≠ [] := by
        intro empty
        rw [empty, Sink.failure_nil] at reports
        nomatch reports
      refine ⟨?_, ?_, fun _ => nofun, fun _ => nofun, ?_⟩
      · rw [reports, before]
        exact ⟨nofun, fun tries => nomatch tries.1⟩
      · intro h handed
        rw [before] at handed
        nomatch handed
      · rintro _ ⟨⟩
        exact .line there (program ▸ line_of_report nonempty) reports (List.suffix_append _ _) rfl
  | none =>
      dsimp only
      rw [Sink.taken_of_works reports]
      have reported {e : ClientError} (same : error = some e) :
          complaint c.program e.message <:+ soFar.errors ++ reportOf c.program error := by
        rw [same]
        exact List.suffix_append _ _
      by_cases absent : c.alternateEditor.getD "" = ""
      · -- Without an alternate editor the report of the error is the only message.
        rw [if_pos absent]
        refine ⟨?_, ?_, fun _ _ => rfl, ?_, ?_⟩
        · rw [exists_editor_iff, before]
          simp [absent]
        · intro h handed
          rw [before] at handed
          nomatch handed
        · intro _ _ either
          rw [before, Option.isSome_none, or_iff_left Bool.false_ne_true] at either
          obtain ⟨e, same⟩ := Option.isSome_iff_exists.mp either
          exact ⟨_, program ▸ .complaint e.message, (reported same).isInfix⟩
        · exact fun lost missing => absurd (written.symm.trans missing) nofun
      · obtain ⟨editor, given, nonempty⟩ := (exists_editor_iff c).mpr absent
        have command : AlternateEditor.commandLine c =
            (AlternateEditor.words editor).map Bytes.ofText ++ c.items := by
          rw [AlternateEditor.commandLine, given]
          rfl
        -- With one, it runs and says how the run ends, or a message tells that it does not.
        rw [if_neg absent]
        cases runs : handOver (w.replace s) c with
        | ok result =>
            obtain ⟨possible, ran⟩ := handOver_eq_ok.mp runs
            refine ⟨⟨fun _ => ⟨reports, editor, given, nonempty⟩, fun _ => rfl⟩, ?_, ?_, ?_, ?_⟩
            · rintro _ ⟨⟩
              exact ⟨⟨editor, given, nonempty, command⟩, fun _ => reported,
                ⟨fun _ => ⟨possible, result, ran, rfl⟩, fun _ => rfl⟩⟩
            · exact fun stays => absurd ⟨_, rfl, rfl⟩ stays
            · exact fun stays => absurd ⟨_, rfl, rfl⟩ stays
            · exact fun lost missing => absurd (written.symm.trans missing) nofun
        | error cause =>
            refine fallsBack_of_refused program (there.reported program reports) rfl rfl written
              reports ⟨editor, given, nonempty⟩ ?_
            refine fun f => ⟨⟨editor, given, nonempty, command⟩, fun _ => reported, nofun, ?_⟩
            rintro ⟨possible, result, ran, -⟩
            rw [handOver_eq_ok.mpr ⟨possible, ran⟩] at runs
            nomatch runs

/-! ## Runs with a configuration -/

/-- A search leaves the items to the alternate editor only if there is one. -/
theorem exists_editor_of_unavailable {κ : Type} {seeker : Seeker σ κ} {q t : Search σ}
    (searched : Search.establish seeker c q = .ok .unavailable t) :
    ∃ editor, c.alternateEditor = some editor ∧ editor ≠ "" := by
  rw [Search.establish_eq] at searched
  obtain ⟨found, m, -, later⟩ := bind_eq_ok.mp searched
  cases found with
  | some connection => cases later
  | none =>
      dsimp only at later
      rw [Search.escalate] at later
      split at later
      case isTrue =>
        obtain ⟨_, _, -, later⟩ := bind_eq_ok.mp later
        obtain ⟨_, _, -, later⟩ := bind_eq_ok.mp later
        obtain ⟨found, _, -, later⟩ := bind_eq_ok.mp later
        cases found <;> cases later
      case isFalse never =>
        split at later
        case isTrue given =>
          obtain ⟨editor, same⟩ := Option.isSome_iff_exists.mp given
          refine ⟨editor, same, ?_⟩
          rintro rfl
          exact never (decide_eq_true same)
        case isFalse => cases later

theorem showsError_of_sessionOver {s : σ} {link : Link}
    (ended : (sessionOver w i c s link).result = .ok .serverError) :
    ShowsError (errorsOf (sessionOver w i c s link).events) := by
  rw [sessionOver] at ended ⊢
  cases unreadable : w.unreadable with
  | none =>
      rw [unreadable] at ended
      exact showsError_of_run ended
  | some error =>
      rw [unreadable] at ended
      dsimp only at ended ⊢
      split at ended
      case isTrue => cases ended
      case isFalse reads =>
        rw [if_neg reads]
        exact showsError_of_run ended

/-- What a run leaves whose session came to an outcome. -/
structure Completes (outcome : Outcome) (f : Finish) : Prop where
  kept : f.handover = none
  written : f.unwritten = none
  status : f.status = outcome.exitStatus
  shown : outcome = .serverError → ShowsError f.errors

/-- What a run leaves that its search broke off, because it could not print a line. -/
structure BrokenOff (w : Surroundings σ) (c : Config) (f : Finish) : Prop where
  failed : ∃ error s, Search.establish (w.seeker c) c { state := w.start } = .error error s ∧
    ∃ lost, w.brokenOff s.state = some lost ∧ f.unwritten = some lost
  kept : f.handover = none
  status : f.status = brokenOffStatus

/-- A run with a configuration comes to the outcome of a session, or falls back, or is broken
off. -/
theorem connect_cases (w : Surroundings σ) (configures : Configures i c) :
    (∃ s stderr outcome, Stops w i c s stderr (.ok outcome) ∧
        Completes outcome (connect w i c)) ∨
      (∃ s stderr error, Stops w i c s stderr (.error error) ∧
        FallsBack w i c s stderr error (connect w i c) ∧
        (error.isSome ∨ (connect w i c).handover.isSome)) ∨
      BrokenOff w c (connect w i c) := by
  unfold connect
  cases searched : Search.establish (w.seeker c) c { state := w.start } with
  | error error s =>
      dsimp only
      cases whole : w.brokenOff s.state with
      | none =>
          have stops : Stops w i c _ _ _ := .search searched whole
          exact .inr (.inl ⟨_, _, _, stops, fail_fallsBack configures stops 0 rfl rfl, .inl rfl⟩)
      | some lost => exact .inr (.inr ⟨⟨error, s, searched, lost, whole, rfl⟩, rfl, rfl⟩)
  | ok found s =>
      cases found with
      | unavailable =>
          have stops : Stops w i c _ _ _ := .unavailable searched
          have falls : FallsBack w i c s.state (w.stderr s.state) none
            (fail (w.replace s.state) c (w.stderr s.state)
              { status := 1, output := w.output s.state, errors := w.errors s.state } 0 none) :=
              fail_fallsBack configures stops 0 rfl rfl
          have nothing : (w.stderr s.state).failure (reportOf c.program none) = none :=
            Sink.failure_nil _
          have tries := falls.tries.mpr ⟨nothing, exists_editor_of_unavailable searched⟩
          exact .inr (.inl ⟨_, _, _, stops, falls, .inr tries⟩)
      | connected link =>
          dsimp only
          cases here : i.directory with
          | error error =>
              have stops : Stops w i c _ _ _ := .directory searched here
              exact .inr (.inl ⟨_, _, _, stops, fail_fallsBack configures stops 0 rfl rfl,
                .inl rfl⟩)
          | ok directory =>
              dsimp only
              rw [converse]
              cases ended : (sessionOver w i c s.state link).result with
              | error error =>
                  have stops : Stops w i c _ _ _ := .session searched here ended
                  exact .inr (.inl ⟨_, _, _, stops, fail_fallsBack configures stops _ rfl rfl,
                    .inl rfl⟩)
              | ok outcome =>
                  refine .inl ⟨_, _, _, .outcome searched here ended, rfl, rfl, rfl, ?_⟩
                  rintro rfl
                  obtain ⟨line, text, reply, there⟩ := showsError_of_sessionOver ended
                  exact ⟨line, text, reply, there.trans (List.suffix_append _ _).isInfix⟩

/-! ## Every run -/

theorem tells_of_showsError (program : String) {errors : Bytes} (shows : ShowsError errors) :
    Tells program errors := by
  obtain ⟨line, text, reply, there⟩ := shows
  exact ⟨_, .reported reply, there⟩

/-- What it is for a run to work. -/
def Works (w : Surroundings σ) (i : Invocation) (f : Finish) : Prop :=
  Informed w i f.output ∨ ∃ c s stderr, Configures i c ∧ Stops w i c s stderr (.ok .success)

/-- A run with a configuration works only where it stops at a success. -/
theorem stops_of_works {f : Finish} (configures : Configures i c) (works : Works w i f) :
    ∃ s stderr, Stops w i c s stderr (.ok .success) := by
  rcases works with ⟨options, parsed, asked, -⟩ | ⟨c', s, stderr, configures', stops⟩
  · obtain ⟨options', parsed', noVersion, noHelp, -⟩ := configures
    cases parsed.symm.trans parsed'
    simp [noVersion, noHelp] at asked
  · cases configures.unique configures'
    exact ⟨s, stderr, stops⟩

/-- A run with a configuration works if it stops at a success. -/
theorem works_iff {s : σ} {stderr : Sink} {result : Except (Option ClientError) Outcome}
    (configures : Configures i c) (stops : Stops w i c s stderr result) (f : Finish) :
    Works w i f ↔ result = .ok .success := by
  constructor
  · intro works
    obtain ⟨s', stderr', stops'⟩ := stops_of_works configures works
    exact (stops.unique stops').2.2
  · rintro rfl
    exact .inr ⟨c, s, stderr, configures, stops⟩

/-- Where the search broke the run off, it does not stop. -/
theorem BrokenOff.never {f : Finish} {s : σ} {stderr : Sink}
    {result : Except (Option ClientError) Outcome} (broken : BrokenOff w c f) :
    ¬ Stops w i c s stderr result := by
  obtain ⟨error, t, failed, lost, unprinted, -⟩ := broken.failed
  intro stops
  cases stops with
  | search failed' whole =>
      cases failed.symm.trans failed'
      exact absurd (whole.symm.trans unprinted) nofun
  | unavailable found | directory found | session found | outcome found =>
      nomatch failed.symm.trans found

theorem accounted_of_completes {s : σ} {stderr : Sink} {outcome : Outcome} {f : Finish}
    (configures : Configures i c) (stops : Stops w i c s stderr (.ok outcome))
    (completes : Completes outcome f) : Accounted w i f (Works w i f) := by
  have works := works_iff configures stops f
  cases outcome with
  | success => exact accounted_of_success completes.status completes.written (works.mpr rfl)
  | serverError =>
      have told := tells_of_showsError (programName i) (completes.shown rfl)
      refine accounted_of_failure (fun good => nomatch works.mp good)
        (fun _ => ⟨completes.status, told⟩) fun lost there => ?_
      exact absurd (completes.written.symm.trans there) nofun

theorem accounted_of_fallsBack {s : σ} {stderr : Sink} {error : Option ClientError} {f : Finish}
    (configures : Configures i c) (stops : Stops w i c s stderr (.error error))
    (falls : FallsBack w i c s stderr error f) (either : error.isSome ∨ f.handover.isSome)
    (stays : ¬ Replaced f) : Accounted w i f (Works w i f) := by
  exact accounted_of_failure (fun good => nomatch (works_iff configures stops f).mp good)
    (fun whole => ⟨falls.status stays whole, falls.told stays whole either⟩) falls.unwritten

theorem accounted_of_brokenOff {f : Finish} (configures : Configures i c)
    (broken : BrokenOff w c f) : Accounted w i f (Works w i f) := by
  obtain ⟨error, s, failed, lost, unprinted, unwritten⟩ := broken.failed
  refine accounted_of_failure (fun good => ?_) (fun whole => ?_) fun lost' there => ?_
  · obtain ⟨s', stderr, stops⟩ := stops_of_works configures good
    exact broken.never stops
  · exact absurd (whole.symm.trans unwritten) nofun
  · cases unwritten.symm.trans there
    exact .search configures failed unprinted broken.status

/-- What is to be said of every run: unless an alternate editor took its place, its status
says whether it worked, and a run that failed has told why if it could. -/
structure Answers (w : Surroundings σ) (i : Invocation) (f : Finish) : Prop where
  accounted : ¬ Replaced f → Accounted w i f (Works w i f)
  /-- An alternate editor comes in exactly where there is a configuration that has one, and the
  run comes to no outcome of a session, after the error could be reported if there is one. -/
  handsOver : f.handover.isSome ↔ ∃ c s stderr error, Configures i c ∧
    Stops w i c s stderr (.error error) ∧ stderr.failure (reportOf c.program error) = none ∧
    ∃ editor, c.alternateEditor = some editor ∧ editor ≠ ""
  /-- It never follows an outcome. -/
  keeps : ∀ c s stderr outcome, Configures i c → Stops w i c s stderr (.ok outcome) →
    f.handover = none
  takesOver : ∀ c s stderr error h, Configures i c → Stops w i c s stderr (.error error) →
    f.handover = some h → TakesOver w c s error f h

theorem answers_of_unconfigured {f : Finish} (ended : Unconfigured w i f) : Answers w i f where
  accounted _ := by
    have none : ¬ ∃ c s stderr, Configures i c ∧ Stops w i c s stderr (.ok .success) :=
      fun ⟨c, _, _, configures, _⟩ => ended.unsettled c configures
    rw [Works, or_iff_left none]
    exact ended.accounted
  handsOver := by
    rw [ended.kept]
    exact ⟨nofun, fun ⟨c, _, _, _, configures, _⟩ => absurd configures (ended.unsettled c)⟩
  keeps c _ _ _ configures := absurd configures (ended.unsettled c)
  takesOver c _ _ _ _ configures := absurd configures (ended.unsettled c)

theorem answers_of_completes {s : σ} {stderr : Sink} {outcome : Outcome} {f : Finish}
    (configures : Configures i c) (stops : Stops w i c s stderr (.ok outcome))
    (completes : Completes outcome f) : Answers w i f where
  accounted _ := accounted_of_completes configures stops completes
  handsOver := by
    rw [completes.kept]
    refine ⟨nofun, ?_⟩
    rintro ⟨c', s', stderr', error, configures', stops', -⟩
    cases configures.unique configures'
    nomatch (stops.unique stops').2.2
  keeps _ _ _ _ _ _ := completes.kept
  takesOver _ _ _ _ _ _ _ there := by
    rw [completes.kept] at there
    nomatch there

theorem answers_of_fallsBack {s : σ} {stderr : Sink} {error : Option ClientError} {f : Finish}
    (configures : Configures i c) (stops : Stops w i c s stderr (.error error))
    (falls : FallsBack w i c s stderr error f) (either : error.isSome ∨ f.handover.isSome) :
    Answers w i f where
  accounted := accounted_of_fallsBack configures stops falls either
  handsOver := by
    rw [falls.tries]
    refine ⟨fun tries => ⟨c, s, stderr, error, configures, stops, tries⟩, ?_⟩
    rintro ⟨c', s', stderr', error', configures', stops', tries⟩
    cases configures.unique configures'
    obtain ⟨-, rfl, same⟩ := stops.unique stops'
    cases same
    exact tries
  keeps c' s' stderr' outcome configures' stops' := by
    cases configures.unique configures'
    nomatch (stops.unique stops').2.2
  takesOver c' s' stderr' error' h configures' stops' := by
    cases configures.unique configures'
    obtain ⟨rfl, -, same⟩ := stops.unique stops'
    cases same
    exact falls.takesOver h

theorem answers_of_brokenOff {f : Finish} (configures : Configures i c)
    (broken : BrokenOff w c f) : Answers w i f where
  accounted _ := accounted_of_brokenOff configures broken
  handsOver := by
    rw [broken.kept]
    refine ⟨nofun, ?_⟩
    rintro ⟨c', s', stderr', error', configures', stops', -⟩
    cases configures.unique configures'
    exact absurd stops' broken.never
  keeps _ _ _ _ _ _ := broken.kept
  takesOver _ _ _ _ _ _ _ there := by
    rw [broken.kept] at there
    nomatch there

/-- Whatever a run finds around it, however its standard streams fail and however the program was
called: unless an alternate editor took its place, its status is 0 exactly if the program printed
what it was asked about itself or a session ended well. Otherwise the status is 1 and standard
error was told why, except where a line of the program itself could not be written, which breaks
it off; where everything can be written, that does not happen. An alternate editor comes in only
with a configuration that has one, exactly where the run comes to no outcome of a session, after
the error if there is one, and is handed the items. -/
theorem runIn_answers (w : Surroundings σ) (i : Invocation) : Answers w i (runIn w i) := by
  rcases runIn_cases w i with ⟨c, configures, same⟩ | ended
  · rw [same]
    rcases connect_cases w configures with
      ⟨s, stderr, outcome, stops, completes⟩ | ⟨s, stderr, error, stops, falls, either⟩ | broken
    · exact answers_of_completes configures stops completes
    · exact answers_of_fallsBack configures stops falls either
    · exact answers_of_brokenOff configures broken
  · exact answers_of_unconfigured ended

/-- Where a reply cannot be printed, because standard output is full, the alternate editor takes
over with its words and the item. -/
theorem editor_takes_over_from_full_output :
    let i : Invocation :=
      { program := Bytes.ofText "client"
        args :=
          [Bytes.ofText "-q", Bytes.ofText "-a", Bytes.ofText "\"my vi\" -R", Bytes.ofText "a b"]
        env := ⟨[]⟩
        input := []
        directory := .ok (Bytes.ofText "/w") }
    let link : Link := ⟨0, { arriving := [Bytes.ofText "-print x\n"] }⟩
    let w : Surroundings Unit :=
      { seeker := fun _ =>
          { attempt := fun _ => pure link
            launch := fun _ => pure ()
            notice := fun bytes s => (bytes, s) }
        start := ()
        output := fun _ => []
        errors := fun _ => []
        replace := fun _ _ => .ok ⟨7, []⟩
        platform := { terminal := fun _ => .error .noName }
        stdout := fun _ => { room := ⟨some 0⟩ } }
    ∃ c stderr error h, Configures i c ∧ Stops w i c () stderr (.error error) ∧
      TakesOver w c () error (runIn w i) h ∧ (runIn w i).status = 7 ∧
      h.command = [Bytes.ofText "my vi", Bytes.ofText "-R", Bytes.ofText "a b"] ∧
      h.told = Bytes.ofText "client: failed to write output: sink full\n" := by
  intro i link w
  have answers : Answers w i (runIn w i) := runIn_answers w i
  have there : (runIn w i).handover.isSome = true := by decide +kernel
  have status : (runIn w i).status = 7 := by decide +kernel
  have command : (runIn w i).handover.map (·.command) =
      some [Bytes.ofText "my vi", Bytes.ofText "-R", Bytes.ofText "a b"] := by decide +kernel
  have told : (runIn w i).handover.map (·.told) =
      some (Bytes.ofText "client: failed to write output: sink full\n") := by decide +kernel
  obtain ⟨c, s, stderr, error, configures, stops, -⟩ := answers.handsOver.mp there
  obtain ⟨h, same⟩ := Option.isSome_iff_exists.mp there
  rw [same, Option.map_some, Option.some_inj] at command told
  exact ⟨c, stderr, error, h, configures, stops,
    answers.takesOver c s stderr error h configures stops same, status, command, told⟩

end EditorClient.CommandLine
