/-
# A session step by step

What a session does is cut into tasks, each of which is one thing after which something else
can happen: a request is sent, an action is taken, a line is looked at. A task may leave
further tasks. A session is always at one of a few stages: it is busy with tasks, it waits
for the server, or it is over.

Between any two tasks, and while the session waits, the world around it can change: bytes
arrive, the connection ends or breaks, the server stops taking anything, and signals reach
the bridge. `Changes` are all courses that a session can take in this way. A run over a
connection, in which signals arrive only while the process is stopped, is one of them.

What is written to standard error is held until it is flushed, which is done after each write
that works. The log does not show this, so it is kept beside the reader. A flush that fails
lets nothing go.
-/

import EditorClient.Proofs.Session.Interleaving
import Mathlib.Logic.Function.Iterate

namespace EditorClient.Session

open ReplyReader

/-! ## Tasks -/

/-- One thing that a session does. -/
inductive Task
  /-- Limit the time that a read may take. -/
  | limit
  /-- Build a request, the first with its opening, and send it. -/
  | request (first : Bool)
  /-- Tell the user that the client waits, if that is to be told. -/
  | tell
  /-- Tell it again if a request was sent again. -/
  | tellAgain
  /-- Look at a line. -/
  | line (bytes : Bytes)
  /-- Take an action that a line calls for. -/
  | act (action : Action)
  /-- Flush standard error. -/
  | flushErrors
  /-- Keep the beginning of a line for later. -/
  | keep (rest : Bytes)
  /-- Look at the line that no newline ended. -/
  | lastLine
  /-- End the line of the output. -/
  | closeLine
  deriving DecidableEq, Repr

/-- What tasks lead up to. -/
inductive Goal
  /-- Reading from the server. -/
  | read
  /-- The end of the session, after reading has broken off with an error or without one. -/
  | result (broken : Option IoError)
  deriving DecidableEq, Repr

/-- How far a session has come. -/
inductive Stage
  | busy (todo : List Task) (goal : Goal)
  /-- It waits for the server. No signal reached the bridge since everything pending was
  written, or one did. -/
  | waiting (undisturbed : Bool)
  | finished (result : Except ClientError Outcome)
  deriving DecidableEq, Repr

/-- A session on its way. -/
structure Situation where
  reader : ReplyReader Session SessionEvent
  stage : Stage
  /-- What has been written to standard error and not been flushed. -/
  held : Bytes := []

/-- The opening of the first request; those that follow have none. -/
def leadingPart (c : Config) (first : Bool) : Request :=
  if first then Request.opening c else []

/-- Actions as tasks. -/
def acts (actions : List Action) : List Task := actions.map .act

section

variable (c : Config) (p : Platform) (items : List Item)

/-- Work at a task. -/
def Task.work : Task → Step Unit
  | .limit => setTimeout c.timeout
  | .request first => ReplyReader.act (Session.request c p items (leadingPart c first))
  | .tellAgain => modify fun r => { r with state := { r.state with resent := false } }
  | .act .unsupported =>
    modify fun r => { r with state := fallen r.state }.record [.unsupported]
  | .act (.err bytes) => writeErr bytes
  | .act action => perform (handler c p items) action
  | .flushErrors => flushErr
  | .keep rest => modify fun r => { r with pending := rest }
  | .lastLine => modify fun r => { r with pending := [] }
  | .tell | .line _ | .closeLine => pure ()

/-- The tasks that a task leaves if it works, depending on the reader with which it began. -/
def Task.more (r : ReplyReader Session SessionEvent) : Task → List Task
  | .tell => if showsWaiting c r.state then acts (Reply.openLine waitingMessage) else []
  | .tellAgain => if r.state.resent then [.tell] else []
  | .line bytes =>
    if bytes = [] then [] else acts ((Reply.parse bytes).actions r.atLineStart r.suppressed)
  | .act .unsupported => [.request false]
  | .act (.err _) => [.flushErrors]
  | .lastLine => [.line r.pending]
  | .closeLine => acts (Reply.closeLine r.atLineStart)
  | _ => []

/-- What is held of standard error after a task that began with this reader. -/
def Task.holds (held : Bytes) (r : ReplyReader Session SessionEvent) : Task → Bytes
  | .act (.err bytes) => held ++ r.err.taken bytes
  | .flushErrors =>
    match r.err.flushFailure with
    | none => []
    | some _ => held
  | _ => held

/-- What is left to do when the replies have come to an end. -/
def Stage.ending (broken : Option IoError) : Stage :=
  .busy [.lastLine, .closeLine] (.result broken)

/-- How a session goes on when reading fails. -/
def Stage.broken (error : IoError) : Stage :=
  if error.kind = .timedOut then .finished (.error .timeout) else .ending (some error)

/-- The result of a session that has done everything. -/
def verdict (outcome : Outcome) : Option IoError → Except ClientError Outcome
  | none => .ok outcome
  | some error => .error (.io "failed to read from server" error)

/-- What a session does next by itself. It waits for the server only when everything that is
pending could be written. -/
def advance (w : Situation) : Situation :=
  match w.stage with
  | .busy (task :: todo) goal =>
    let held := task.holds w.held w.reader
    match task.work c p items w.reader with
    | .ok _ reader => { reader, stage := .busy (task.more c w.reader ++ todo) goal, held }
    | .error error reader => { reader, stage := .finished (.error error), held }
  | .busy [] .read =>
    match w.reader.state.flush with
    | (.ok _, state) =>
      { w with
        reader := { w.reader with state }.record [.handler .reading]
        stage := .waiting true }
    | (.error error, state) =>
      { w with reader := { w.reader with state }, stage := .broken error }
  | .busy [] (.result broken) =>
    { w with
      reader := { w.reader with state := w.reader.state.close }
      stage := .finished (verdict w.reader.outcome broken) }
  | .waiting _ | .finished _ => w

/-- What there is to do about bytes that have arrived, together with what was kept. -/
def takeIn (bytes : Bytes) : List Task :=
  (Lines.complete bytes).map .line ++ [.keep (Lines.tail bytes), .act .flush]

/-- A signal that the bridge acted on disturbs a session that waits. -/
def Stage.disturbed : Stage → Stage
  | .waiting _ => .waiting false
  | stage => stage

/-- What can happen around a session. -/
inductive Outside (w : Situation) : Situation → Prop
  /-- Bytes arrive. -/
  | arrives {undisturbed : Bool} (bytes : Bytes) (waits : w.stage = .waiting undisturbed) :
      Outside w { w with
        reader := { w.reader with pending := w.reader.pending ++ bytes }
        stage := .busy (takeIn (w.reader.pending ++ bytes) ++ [.tellAgain]) .read }
  /-- The server closes the connection. -/
  | closes {undisturbed : Bool} (waits : w.stage = .waiting undisturbed) :
      Outside w { w with stage := .ending none }
  /-- The read fails. -/
  | breaks {undisturbed : Bool} (error : IoError) (waits : w.stage = .waiting undisturbed) :
      Outside w { w with stage := .broken error }
  /-- The read is interrupted, and is begun again. -/
  | interrupts {undisturbed : Bool} (waits : w.stage = .waiting undisturbed) :
      Outside w { w with reader := w.reader.record [.handler .reading] }
  /-- From now on the server takes nothing. -/
  | drops (error : IoError) :
      Outside w { w with reader := { w.reader with state := w.reader.state.cutOff error } }
  /-- A signal reaches the bridge. -/
  | signal (number : Signal) (foreground : Foreground) (fails : JobCall → Option IoError)
      (bridged : w.reader.state.bridged = true) :
      Outside w { w with
        reader := signalled number foreground fails w.reader
        stage := w.stage.disturbed }

/-- One change: the session goes on by itself, or something happens around it. -/
inductive Change (w : Situation) : Situation → Prop
  | own {todo : List Task} {goal : Goal} (busy : w.stage = .busy todo goal) :
      Change w (advance c p items w)
  | outside {w' : Situation} (happens : Outside w w') : Change w w'

/-- Any number of changes. -/
def Changes : Situation → Situation → Prop := Relation.ReflTransGen (Change c p items)

/-- A session at the start of a connection. -/
def Situation.start (connection : Connection) (out err : Sink) : Situation where
  reader := { suppressed := c.suppressOutput, out, err, state := Session.start c connection }
  stage := .busy [.limit, .request true, .tell] .read

end

/-! ## Tasks carry out steps -/

variable {c : Config} {p : Platform} {items : List Item}
  {r q : ReplyReader Session SessionEvent} {α β : Type}

/-- What holds on where a session goes on by itself. -/
def KeptByOwn (c : Config) (p : Platform) (items : List Item) (P : Situation → Prop) : Prop :=
  ∀ ⦃w : Situation⦄ ⦃todo : List Task⦄ ⦃goal : Goal⦄, w.stage = .busy todo goal → P w →
    P (advance c p items w)

/-- However a situation is to go on, the session comes from these tasks to the situation after
them if the result is a success, and is over if it is a failure. What holds on where a session
goes on by itself tells the way. -/
def Carries (c : Config) (p : Platform) (items : List Item) (tasks : List Task)
    (r : ReplyReader Session SessionEvent)
    (result : EStateM.Result ClientError (ReplyReader Session SessionEvent) α) : Prop :=
  ∀ P, KeptByOwn c p items P → ∀ todo goal held, P ⟨r, .busy (tasks ++ todo) goal, held⟩ →
    Ends (fun _ q => ∃ held', P ⟨q, .busy todo goal, held'⟩)
      (fun e q => ∃ held', P ⟨q, .finished (.error e), held'⟩) result

namespace Carries

theorem nothing (a : α) : Carries c p items [] r (.ok a r) :=
  fun _ _ _ _ held here => .ok ⟨held, here⟩

/-- A task that works, and what it leaves. -/
theorem task {task : Task} {tasks : List Task} {u : Unit}
    {result : EStateM.Result ClientError (ReplyReader Session SessionEvent) α}
    (works : task.work c p items r = .ok u q)
    (later : Carries c p items (task.more c r ++ tasks) q result) :
    Carries c p items (task :: tasks) r result := by
  intro P kept todo goal held here
  have next : advance c p items ⟨r, .busy (task :: tasks ++ todo) goal, held⟩ =
      ⟨q, .busy (task.more c r ++ tasks ++ todo) goal, task.holds held r⟩ := by
    rw [List.append_assoc]
    simp only [advance, List.cons_append, works]
  exact later P kept todo goal _ (next ▸ kept rfl here)

/-- A task that works, with nothing to do but what it leaves. -/
theorem only {task : Task} {u : Unit}
    {result : EStateM.Result ClientError (ReplyReader Session SessionEvent) α}
    (works : task.work c p items r = .ok u q) (later : Carries c p items (task.more c r) q result) :
    Carries c p items [task] r result :=
  .task works ((List.append_nil _).symm ▸ later)

/-- A task that fails is the last. -/
theorem fails {task : Task} {tasks : List Task} {e : ClientError}
    (fails : task.work c p items r = .error e q) :
    Carries (α := α) c p items (task :: tasks) r (.error e q) := by
  intro P kept todo goal held here
  have last : advance c p items ⟨r, .busy (task :: tasks ++ todo) goal, held⟩ =
      ⟨q, .finished (.error e), task.holds held r⟩ := by
    simp only [advance, List.cons_append, fails]
  exact .error ⟨_, last ▸ kept rfl here⟩

/-- Steps that follow each other. -/
theorem bind {first later : List Task} {step : Step α} {next : α → Step β}
    (here : Carries c p items first r (step r))
    (after : ∀ a q, step r = .ok a q → Carries c p items later q (next a q)) :
    Carries c p items (first ++ later) r ((step >>= next) r) := by
  intro P kept todo goal held begun
  rw [List.append_assoc] at begun
  have first := here P kept (later ++ todo) goal held begun
  cases done : step r with
  | error e q =>
      rw [done] at first
      rw [bind_of_error done]
      exact .error first.failed_of_error
  | ok a q =>
      rw [done] at first
      rw [bind_of_ok done]
      obtain ⟨held', reached⟩ := first.post_of_ok
      exact after a q done P kept todo goal held' reached

/-- A task that leaves nothing further. -/
theorem alone {task : Task} (nothing : task.more c r = []) :
    Carries c p items [task] r (task.work c p items r) := by
  cases done : task.work c p items r with
  | ok u q => exact .only done (nothing ▸ .nothing u)
  | error e q => exact .fails done

/-- A loop. -/
theorem forM {f : α → Step Unit} {task : α → Task} (list : List α)
    (each : ∀ a r, Carries c p items [task a] r (f a r)) (r : ReplyReader Session SessionEvent) :
    Carries c p items (list.map task) r (list.forM f r) := by
  induction list generalizing r with
  | nil => exact nothing ()
  | cons a rest ih => exact (each a r).bind fun _ q _ => ih q

end Carries

theorem carries_request (first : Bool) (r : ReplyReader Session SessionEvent) :
    Carries c p items [.request first] r
      (ReplyReader.act (request c p items (leadingPart c first)) r) :=
  .alone rfl

/-- An action is one task, and a second one if it sends a request or writes to standard
error. -/
theorem carries_perform (action : Action) (r : ReplyReader Session SessionEvent) :
    Carries c p items [.act action] r (perform (handler c p items) action r) := by
  cases action with
  | unsupported =>
      have moved : (Task.act .unsupported).work c p items r =
          .ok () ({ r with state := fallen r.state }.record [.unsupported]) := rfl
      exact .only moved (carries_request false _)
  | err bytes =>
      change Carries c p items _ r ((writeErr bytes >>= fun _ => flushErr) r)
      cases wrote : writeErr bytes r with
      | ok u q =>
          have writes : (Task.act (.err bytes)).work c p items r = .ok u q := wrote
          have flushes : Carries c p items [.flushErrors] q (flushErr q) := .alone rfl
          rw [bind_of_ok wrote]
          exact .only writes flushes
      | error e q =>
          have fails : (Task.act (.err bytes)).work c p items r = .error e q := wrote
          rw [bind_of_error wrote]
          exact .fails fails
  | out | flush | atLineStart | serverError | serverPid | suspend => exact .alone rfl

theorem carries_performAll (actions : List Action) (r : ReplyReader Session SessionEvent) :
    Carries c p items (acts actions) r (performAll (handler c p items) actions r) :=
  .forM actions carries_perform r

theorem carries_dispatch (line : Bytes) (r : ReplyReader Session SessionEvent) :
    Carries c p items [.line line] r (dispatch (handler c p items) line r) := by
  have looked : (Task.line line).work c p items r = .ok () r := rfl
  refine .only looked ?_
  rw [Task.more]
  by_cases empty : line = []
  · subst empty
    exact .nothing ()
  · rw [if_neg empty, dispatch_of_ne_nil _ empty]
    exact carries_performAll _ r

theorem carries_showWaiting (r : ReplyReader Session SessionEvent) :
    Carries c p items [.tell] r (showWaiting c (handler c p items) r) := by
  have looked : Task.tell.work c p items r = .ok () r := rfl
  refine .only looked ?_
  rw [Task.more, showWaiting_apply]
  cases showsWaiting c r.state with
  | true => exact carries_performAll _ r
  | false => exact .nothing ()

theorem carries_afterRead (r : ReplyReader Session SessionEvent) :
    Carries c p items [.tellAgain] r (afterRead c (handler c p items) r) := by
  have seen : Task.tellAgain.work c p items r =
      .ok () { r with state := { r.state with resent := false } } := rfl
  refine .only seen ?_
  rw [Task.more, afterRead_apply]
  cases r.state.resent with
  | true => exact carries_showWaiting _
  | false => exact .nothing ()

/-- Taking in bytes that have arrived. -/
theorem carries_feed (bytes : Bytes) (r : ReplyReader Session SessionEvent) :
    Carries c p items (takeIn (r.pending ++ bytes)) { r with pending := r.pending ++ bytes }
      (feed (handler c p items) bytes r) := by
  rw [feed_apply]
  refine (Carries.forM _ carries_dispatch _).bind fun _ q _ => ?_
  have kept : (Task.keep (Lines.tail (r.pending ++ bytes))).work c p items q =
      .ok () { q with pending := Lines.tail (r.pending ++ bytes) } := rfl
  exact .task kept (carries_perform .flush _)

theorem carries_finish (r : ReplyReader Session SessionEvent) :
    Carries c p items [.lastLine, .closeLine] r (finish (handler c p items) r) := by
  have looked : Task.lastLine.work c p items r = .ok () { r with pending := [] } := rfl
  rw [finish_apply]
  refine .task looked ((carries_dispatch r.pending _).bind fun _ q _ => ?_)
  have closes : Task.closeLine.work c p items q = .ok () q := rfl
  rw [closing_apply]
  exact .task closes ((carries_performAll _ q).bind fun _ t _ => .nothing t.outcome)

/-- What a task keeps of the reader, whether it works or fails, a session keeps that works at
it. -/
theorem reader_advance {I : ReplyReader Session SessionEvent → Prop} {task : Task}
    {todo : List Task} {goal : Goal} {held : Bytes}
    (left : Ends (fun _ => I) (fun _ => I) (task.work c p items r)) :
    I (advance c p items ⟨r, .busy (task :: todo) goal, held⟩).reader := by
  simp only [advance]
  cases done : task.work c p items r with
  | ok _ q =>
      rw [done] at left
      exact left.post_of_ok
  | error e q =>
      rw [done] at left
      exact left.failed_of_error

/-! ## A run is a course of changes -/

/-- A session that is left to itself for so many steps. -/
theorem changes_advance (c : Config) (p : Platform) (items : List Item) (steps : Nat)
    (w : Situation) : Changes c p items w ((advance c p items)^[steps] w) := by
  have one (w : Situation) : Changes c p items w (advance c p items w) := by
    obtain ⟨r, stage, held⟩ := w
    cases stage with
    | busy todo goal => exact .single (.own rfl)
    | waiting | finished => exact .refl
  induction steps generalizing w with
  | zero => exact .refl
  | succ steps ih => exact (one w).trans (ih _)

/-- What the last read of a connection comes to. -/
def lastRead : Ending → Except IoError (Option Bytes)
  | .closed => .ok none
  | .failed error => .error error
  | .dropped reading _ => .error reading

/-- What is said of a session in which these bytes have arrived, and holds on in a run that
comes to this ending. -/
structure KeptInRuns (c : Config) (p : Platform) (items : List Item) (ending : Ending)
    (P : Bytes → Situation → Prop) : Prop where
  own : ∀ arrived, KeptByOwn c p items (P arrived)
  arrives : ∀ {arrived w}, P arrived w → ∀ bytes, w.stage = .waiting true →
    P (arrived ++ bytes) { w with
      reader := { w.reader with pending := w.reader.pending ++ bytes }
      stage := .busy (takeIn (w.reader.pending ++ bytes) ++ [.tellAgain]) .read }
  closes : ∀ {arrived w}, P arrived w → lastRead ending = .ok none → w.stage = .waiting true →
    P arrived { w with stage := .ending none }
  breaks : ∀ {arrived w}, P arrived w → ∀ error, lastRead ending = .error error →
    w.stage = .waiting true → P arrived { w with stage := .broken error }
  drops : ∀ {arrived w}, P arrived w → ∀ reading writing, ending = .dropped reading writing →
    P arrived { w with reader := { w.reader with state := w.reader.state.cutOff writing } }

/-- What can be said of every course holds on in a run. -/
theorem keptInRuns_changes (c : Config) (p : Platform) (items : List Item) (ending : Ending)
    (begun : Situation) :
    KeptInRuns c p items ending fun _ => Changes c p items begun where
  own _ _ _ _ busy here := here.tail (.own busy)
  arrives here bytes waits := here.tail (.outside (.arrives bytes waits))
  closes here _ waits := here.tail (.outside (.closes waits))
  breaks here error _ waits := here.tail (.outside (.breaks error waits))
  drops here _ writing _ := here.tail (.outside (.drops writing))

section

variable {P : Bytes → Situation → Prop} {ending : Ending} {arrived left : Bytes}

/-- This is said where reading ends with this result, or where the session is over. Some of what
was left has arrived by then, and all of it if nothing went wrong. -/
def Comes (P : Bytes → Situation → Prop) (arrived left : Bytes)
    (result : EStateM.Result ClientError (ReplyReader Session SessionEvent) (Option IoError)) :
    Prop :=
  Ends
    (fun failure q => ∃ part held, part <+: left ∧ (failure = none → part = left) ∧
      P (arrived ++ part) ⟨q, .ending failure, held⟩)
    (fun e q => ∃ part held, part <+: left ∧ P (arrived ++ part) ⟨q, .finished (.error e), held⟩)
    result

/-- Where more has arrived, and less is left. -/
theorem Comes.after {bytes : Bytes}
    {result : EStateM.Result ClientError (ReplyReader Session SessionEvent) (Option IoError)}
    (comes : Comes P (arrived ++ bytes) left result) : Comes P arrived (bytes ++ left) result := by
  refine comes.mono ?_ ?_
  · rintro failure q ⟨part, held, begins, whole, here⟩
    refine ⟨bytes ++ part, held, (List.prefix_append_right_inj bytes).mpr begins, ?_, ?_⟩
    · exact fun none => congrArg (bytes ++ ·) (whole none)
    · rwa [← List.append_assoc]
  · rintro e q ⟨part, held, begins, here⟩
    refine ⟨bytes ++ part, held, (List.prefix_append_right_inj bytes).mpr begins, ?_⟩
    rwa [← List.append_assoc]

/-- The failure of a read. -/
theorem comes_readFailed (error : IoError) {held : Bytes} (left : Bytes)
    (here : P arrived ⟨q, .broken error, held⟩) : Comes P arrived left (readFailed error q) := by
  rw [Stage.broken] at here
  rw [← List.append_nil arrived] at here
  rw [readFailed]
  split at here
  case isTrue late =>
    rw [if_pos late]
    exact .error ⟨[], held, List.nil_prefix, here⟩
  case isFalse early =>
    rw [if_neg early]
    exact .ok ⟨[], held, List.nil_prefix, fun other => (by cases other), here⟩

/-- A read begins with writing what is pending. -/
theorem comes_beforeRead (kept : KeptByOwn c p items (P arrived))
    {next : Option IoError → Step (Option IoError)} {held : Bytes}
    (failed : ∀ error, next (some error) = readFailed error)
    (waits : ∀ q, P arrived ⟨q, .waiting true, held⟩ → Comes P arrived left (next none q))
    (here : P arrived ⟨r, .busy [] .read, held⟩) :
    Comes P arrived left ((beforeRead >>= next) r) := by
  have reached := kept rfl here
  rcases flushed : r.state.flush with ⟨result, state⟩
  cases result with
  | error error =>
      have begun : beforeRead r = .ok (some error) { r with state } := by
        simp only [beforeRead, flushed]
      have blocked : advance c p items ⟨r, .busy [] .read, held⟩ =
          ⟨{ r with state }, .broken error, held⟩ := by
        simp only [advance, flushed]
      rw [bind_of_ok begun, failed]
      exact comes_readFailed error left (blocked ▸ reached)
  | ok _ =>
      have begun : beforeRead r = .ok none ({ r with state }.record [.handler .reading]) := by
        simp only [beforeRead, flushed]
      have reads : advance c p items ⟨r, .busy [] .read, held⟩ =
          ⟨{ r with state }.record [.handler .reading], .waiting true, held⟩ := by
        simp only [advance, flushed]
      rw [bind_of_ok begun]
      exact waits _ (reads ▸ reached)

/-- Reading to the end. The induction is on the reads: before each of them the session has
nothing to do. -/
theorem comes_readAll (kept : KeptInRuns c p items ending P) (reads : List Bytes) {held : Bytes}
    (here : P arrived ⟨r, .busy [] .read, held⟩) :
    Comes P arrived reads.flatten (readAll c (handler c p items) ending reads r) := by
  induction reads generalizing r arrived held with
  | nil =>
      unfold readAll
      refine comes_beforeRead (kept.own arrived) (fun error => by cases ending <;> rfl) ?_ here
      intro q waits
      cases ending with
      | closed =>
          refine .ok ⟨[], held, List.nil_prefix, fun _ => rfl, ?_⟩
          rw [List.append_nil]
          exact kept.closes waits rfl rfl
      | failed error => exact comes_readFailed error _ (kept.breaks waits error rfl rfl)
      | dropped reading writing =>
          exact comes_readFailed reading _
            (kept.breaks (kept.drops waits reading writing rfl) reading rfl rfl)
  | cons bytes rest ih =>
      unfold readAll
      refine comes_beforeRead (kept.own arrived) (fun error => rfl) ?_ here
      intro q waits
      have ended : ∀ e t, (∃ held', P (arrived ++ bytes) ⟨t, .finished (.error e), held'⟩) →
          ∃ part held', part <+: (bytes :: rest).flatten ∧
            P (arrived ++ part) ⟨t, .finished (.error e), held'⟩ := by
        rintro e t ⟨held', reached⟩
        exact ⟨bytes, held', List.prefix_append _ _, reached⟩
      have feeds := carries_feed bytes q _ (kept.own (arrived ++ bytes)) [.tellAgain] .read held
        (kept.arrives waits bytes rfl)
      apply (feeds.mono_failed ended).bind
      rintro _ q ⟨_, fed⟩
      have looks := carries_afterRead q _ (kept.own (arrived ++ bytes)) [] .read _ fed
      apply (looks.mono_failed ended).bind
      rintro _ q ⟨held, told⟩
      exact (ih told).after

/-- The outcome is the one that the reader has come to. -/
theorem finish_told (h : ReplyHandler Session SessionEvent)
    (r : ReplyReader Session SessionEvent) :
    Ends (fun outcome q => q.outcome = outcome) (fun _ _ => True) (finish h r) := by
  refine .of_ok fun outcome q done => ?_
  rw [finish_apply] at done
  obtain ⟨_, t, -, closes⟩ := bind_eq_ok.mp done
  rw [closing_apply] at closes
  obtain ⟨_, _, -, ended⟩ := bind_eq_ok.mp closes
  cases ended
  rfl

/-- The course of a session, from its first request to its result. -/
theorem converse_kept {connection : Connection} {out err : Sink}
    (kept : KeptInRuns c p items connection.ending P)
    (start : P [] (.start c connection out err)) :
    Ends
      (fun outcome q => ∃ held,
        P connection.arriving.flatten ⟨q, .finished (.ok outcome), held⟩)
      (fun e q => ∃ part held, part <+: connection.arriving.flatten ∧
        P part ⟨q, .finished (.error e), held⟩)
      (converse c p items connection (Situation.start c connection out err).reader) := by
  have early : ∀ e t, (∃ held, P [] ⟨t, .finished (.error e), held⟩) →
      ∃ part held, part <+: connection.arriving.flatten ∧ P part ⟨t, .finished (.error e), held⟩ :=
    fun e t ⟨held, reached⟩ => ⟨[], held, List.nil_prefix, reached⟩
  have limits : Carries c p items [.limit] (Situation.start c connection out err).reader
      (setTimeout c.timeout (Situation.start c connection out err).reader) := .alone rfl
  apply ((limits _ (kept.own []) [.request true, .tell] .read [] start).mono_failed early).bind
  rintro _ q ⟨_, reached⟩
  have requests := carries_request true q _ (kept.own []) [.tell] .read _ reached
  apply (requests.mono_failed early).bind
  rintro _ q ⟨_, reached⟩
  have tells := carries_showWaiting q _ (kept.own []) [] .read _ reached
  apply (tells.mono_failed early).bind
  rintro _ q ⟨_, reached⟩
  have reads := comes_readAll kept connection.reads reached
  rw [reads_flatten] at reads
  apply reads.bind
  rintro failure q ⟨part, _, begins, whole, reached⟩
  have finishes := carries_finish q _ (kept.own ([] ++ part)) [] _ _ reached
  have late : ∀ e t, (∃ held, P ([] ++ part) ⟨t, .finished (.error e), held⟩) ∧ True →
      ∃ part held, part <+: connection.arriving.flatten ∧ P part ⟨t, .finished (.error e), held⟩ :=
    fun e t ⟨⟨held, reached⟩, _⟩ => ⟨part, held, begins, reached⟩
  apply ((finishes.and (finish_told _ q)).mono_failed late).bind
  rintro outcome q ⟨⟨held, reached⟩, rfl⟩
  have last := kept.own ([] ++ part) rfl reached
  cases failure with
  | none =>
      cases whole rfl
      exact .ok ⟨held, last⟩
  | some error => exact .error ⟨part, held, begins, last⟩

/-- A run over a connection is one of the courses that a session can take: what is said of its
start, and holds on in runs, is said of where it ends. -/
theorem run_kept {input : Bytes} {connection : Connection} {out err : Sink}
    (kept : KeptInRuns c p (Item.all c input) connection.ending P)
    (start : P [] (.start c connection out err)) :
    let report := run c p input connection out err
    ∃ part w, P part w ∧ part <+: connection.arriving.flatten ∧
      (∀ outcome, report.result = .ok outcome → part = connection.arriving.flatten) ∧
      w.stage = .finished report.result ∧ w.reader.state = report.session ∧
      w.reader.events = report.events := by
  have course := converse_kept kept start
  cases comes : converse c p (Item.all c input) connection
      (Situation.start c connection out err).reader with
  | ok outcome q =>
      rw [comes] at course
      obtain ⟨held, reached⟩ := course.post_of_ok
      rw [run_of_ok comes]
      exact ⟨_, _, reached, List.prefix_rfl, fun _ _ => rfl, rfl, rfl, rfl⟩
  | error e q =>
      rw [comes] at course
      obtain ⟨part, held, begins, reached⟩ := course.failed_of_error
      rw [run_of_error comes]
      exact ⟨part, _, reached, begins, nofun, rfl, rfl, rfl⟩

end

/-- A run over a connection is one of the courses that a session can take. -/
theorem run_changes (c : Config) (p : Platform) (input : Bytes) (connection : Connection)
    (out err : Sink) :
    let report := run c p input connection out err
    ∃ w, Changes c p (Item.all c input) (Situation.start c connection out err) w ∧
      w.stage = .finished report.result ∧ w.reader.state = report.session ∧
      w.reader.events = report.events := by
  obtain ⟨_, w, changes, -, -, finished⟩ := run_kept
    (keptInRuns_changes c p (Item.all c input) connection.ending
      (.start c connection out err)) .refl
  exact ⟨w, changes, finished⟩

end EditorClient.Session
