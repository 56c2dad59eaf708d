/-
# Runs that can write what they have to

A session leaves a standard error that takes everything as it was. So every line of the program
can be written if a search leaves it like this too, and never breaks the program off for want of a
line that it could not print: such surroundings are `Writable`. A machine is among them if its
standard streams take everything, whatever its files and servers are.
-/

import EditorClient.CommandLine
import EditorClient.Proofs.Server.Trials
import EditorClient.Proofs.Session.Stages

namespace EditorClient

/-! ## Sessions -/

namespace Session

open ReplyReader

variable {c : Config} {p : Platform} {items : List Item}

/-- Standard error takes everything. -/
def TakesErrors (r : ReplyReader Session SessionEvent) : Prop := r.err.TakesAll

variable {r : ReplyReader Session SessionEvent}

theorem TakesErrors.wroteErr (takes : TakesErrors r) (bytes : Bytes) :
    TakesErrors (ReplyReader.wroteErr bytes r) := Sink.takesAll_after takes bytes

/-- No task makes standard error fail that comes later, whether it works or fails. -/
theorem work_takesErrors (task : Task) : Preserves TakesErrors (task.work c p items) := by
  intro r takes
  cases task with
  | limit =>
      change Ends _ _ (setTimeout c.timeout r)
      rw [setTimeout]
      split
      · exact .error takes
      · exact .ok takes
  | request first =>
      have left : TakesErrors (acted (request c p items (leadingPart c first)) r) := takes
      exact act_ends (fun _ => left) fun _ _ => left
  | tell | tellAgain | line | keep | lastLine | closeLine => exact .ok takes
  | flushErrors => exact flushErr_ends takes fun _ => takes
  | act action =>
      cases action with
      | out bytes => exact writeOut_ends takes fun _ => takes
      | err bytes => exact writeErr_ends (takes.wroteErr bytes) fun _ => takes.wroteErr bytes
      | flush => exact flushOut_ends takes fun _ => takes
      | atLineStart | serverError | serverPid | unsupported => exact .ok takes
      | suspend =>
          change Ends _ _ (perform _ .suspend r)
          rw [perform_suspend]
          exact act_ends (fun _ => takes) fun _ _ => takes

theorem advance_takesErrors {w : Situation} (takes : TakesErrors w.reader) :
    TakesErrors (advance c p items w).reader := by
  obtain ⟨r, stage, held⟩ := w
  cases stage with
  | waiting | finished => exact takes
  | busy todo goal =>
      cases todo with
      | nil =>
          cases goal with
          | result broken => exact takes
          | read =>
              simp only [advance]
              split <;> exact takes
      | cons task todo => exact reader_advance (work_takesErrors task takes)

/-- A session leaves standard error as it was, if that takes everything. -/
theorem takesAll_run (c : Config) (p : Platform) (input : Bytes) (connection : Connection)
    (out : Sink) {err : Sink} (takes : err.TakesAll) :
    (run c p input connection out err).stderr.TakesAll := by
  have kept : KeptInRuns c p (Item.all c input) connection.ending
      fun _ w => TakesErrors w.reader :=
    ⟨fun _ _ _ _ _ takes => advance_takesErrors takes, fun takes _ _ => takes,
      fun takes _ _ => takes, fun takes _ _ _ => takes, fun takes _ _ _ => takes⟩
  have begun : TakesErrors (Situation.start c connection out err).reader := takes
  have course := converse_kept kept begun
  cases comes : converse c p (Item.all c input) connection
      (Situation.start c connection out err).reader with
  | ok outcome q =>
      rw [comes] at course
      obtain ⟨_, takes⟩ := course.post_of_ok
      rw [run_of_ok comes]
      exact takes
  | error e q =>
      rw [comes] at course
      obtain ⟨_, _, _, takes⟩ := course.failed_of_error
      rw [run_of_error comes]
      exact takes

end Session

/-! ## Searches of a machine -/

namespace Visit

/-- Both standard streams take everything, and nothing broke the program off. -/
structure Unhindered (v : Visit) : Prop where
  out : v.out.TakesAll
  err : v.err.TakesAll
  goesOn : v.brokenOff = none

variable {v : Visit}

theorem Unhindered.say (free : Unhindered v) (message : Bytes → Message) (bytes : Bytes) :
    Unhindered (v.say message bytes) :=
  ⟨free.out, Sink.takesAll_after free.err bytes, free.goesOn⟩

theorem announce_unhindered (c : Config) (endpoint : Endpoint) :
    Preserves Unhindered (announce c endpoint) := by
  intro v free
  cases endpoint with
  | socket path => exact .ok free
  | network address token =>
      rw [announce]
      split
      case isFalse => exact .ok free
      case isTrue =>
        simp only [tellOf, free.out.failure_eq]
        exact .ok ⟨Sink.takesAll_after free.out _, free.err, free.goesOn⟩

theorem attempt_unhindered (c : Config) (candidate : Candidate) :
    Preserves Unhindered (attempt c candidate) := by
  intro v free
  rw [attempt]
  cases Endpoint.locate v.machine c.env candidate with
  | error error =>
      cases error with
      | transport error =>
          apply Ends.error
          split
          · exact free.say _ _
          · exact free
      | _ => exact .error free
  | ok endpoint =>
      refine (announce_unhindered c endpoint free).bind fun _ w free => ?_
      rw [call]
      split
      · exact .ok free
      · exact .error (free.say _ _)

theorem start_unhindered (launcher : Launcher) (socket : Option Bytes) :
    Preserves Unhindered (start launcher socket) := by
  intro v free
  rw [start]
  cases (launcher socket v.machine).2 with
  | ok machine => exact .ok ⟨free.out, free.err, free.goesOn⟩
  | error error => exact .error ⟨free.out, free.err, free.goesOn⟩

/-- A search of a machine that can tell everything is not broken off. -/
theorem establish_unhindered (c : Config) (launcher : Launcher) :
    Preserves (fun q => Unhindered q.state) (Search.establish (seeker c launcher) c) :=
  Search.establish_preserves (attempt_unhindered c) (start_unhindered launcher)
    (fun _ _ free => free.say _ _) c

end Visit

/-! ## Runs -/

namespace CommandLine

variable {σ : Type} {w : Surroundings σ} {i : Invocation} {c : Config}

/-- Standard error takes everything until a session begins, and a search prints every line that
it has to. -/
structure Writable (w : Surroundings σ) : Prop where
  atStart : (w.stderr w.start).TakesAll
  searched : ∀ c, Ends (fun _ s => (w.stderr s.state).TakesAll)
    (fun _ s => (w.stderr s.state).TakesAll ∧ w.brokenOff s.state = none)
    (Search.establish (w.seeker c) c { state := w.start })

/-- On a machine everything can be written if both standard streams take everything. -/
theorem writable_ofMachine (m : Machine) (env : Environment) {out err : Sink}
    (takesOut : out.TakesAll) (takesErr : err.TakesAll) :
    Writable (ofMachine m env out err) where
  atStart := takesErr
  searched c := by
    have begun : Visit.Unhindered { machine := m, out, err } := ⟨takesOut, takesErr, rfl⟩
    have ends := Visit.establish_unhindered c (launch env) (s := { state := _ }) begun
    exact ends.mono (fun _ _ free => free.err) fun _ _ free => ⟨free.err, free.goesOn⟩

/-- A session leaves standard error as it was, if that takes everything. -/
theorem takesAll_sessionOver {s : σ} (takes : (w.stderr s).TakesAll) (link : Link) :
    (sessionOver w i c s link).stderr.TakesAll := by
  have begun := Session.takesAll_run c w.platform i.input link.connection (w.stdout s) takes
  rw [sessionOver]
  split
  · exact begun
  · split
    · exact takes
    · exact begun

end CommandLine

end EditorClient
