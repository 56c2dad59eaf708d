/-
# What the result of a session says

A session that ends well has done all that it set out to do: every request was built and
sent, all of its output was written and flushed, and it read the replies to the end of the
connection. Such a course is `Unbroken`. `session_verdict` says that a session has an outcome
exactly if its course was unbroken, and which outcome that is: the server reported an error in
some segment of the stream, or in none. So a session never claims a success that it did not
have, whatever happens around it and whenever signals reach the bridge.

A read that failed lets the session act on what had arrived before. This is why a session whose
course is not unbroken may have acted on all of its replies and still has no outcome.

The proof follows the course. `Honest` is what is known of a session on its way, and every
change keeps that.
-/

import EditorClient.Proofs.Reply.Errors
import EditorClient.Proofs.Session.Ahead
import EditorClient.Proofs.Session.Deeds

namespace EditorClient.Session

open ReplyReader

/-- The deeds of a course on which nothing went wrong up to the end of the connection. -/
structure Unbroken (deeds : List Deed) : Prop where
  built : ∀ error, .build (.error error) ∉ deeds
  sent : ∀ line error, .send line (.error error) ∉ deeds
  writtenOut : ∀ bytes error, .out bytes (some error) ∉ deeds
  flushedOut : ∀ error, .flushOut (some error) ∉ deeds
  writtenErr : ∀ bytes error, .err bytes (some error) ∉ deeds
  flushedErr : ∀ error, .flushErr (some error) ∉ deeds
  ended : .read (.ok none) ∈ deeds

/-- Some segment of a stream reports an error. -/
def ReportsError (stream : Bytes) : Prop := ∃ line ∈ Lines.segments stream, Reply.ReportsError line

/-- What a session with these deeds, which read this stream, may come to. -/
structure Judged (deeds : List Deed) (stream : Bytes) (result : Except ClientError Outcome) :
    Prop where
  success : result = .ok .success ↔ Unbroken deeds ∧ ¬ ReportsError stream
  serverError : result = .ok .serverError ↔ Unbroken deeds ∧ ReportsError stream
  failure : (∃ error, result = .error error) ↔ ¬ Unbroken deeds

variable {c : Config} {p : Platform} {items : List Item} {done more : List Deed}
  {stream : Bytes} {passed : List Bytes} {task : Task} {todo : List Task} {goal : Goal}
  {r q : ReplyReader Session SessionEvent} {w w' : Situation}

/-! ## Unbroken courses -/

theorem unbroken_of_smooth (smooth : Smooth done) (ended : .read (.ok none) ∈ done) :
    Unbroken done where
  built _ there := nomatch smooth _ there
  sent _ _ there := nomatch smooth _ there
  writtenOut _ _ there := nomatch smooth _ there
  flushedOut _ there := nomatch smooth _ there
  writtenErr _ _ there := nomatch smooth _ there
  flushedErr _ there := nomatch smooth _ there
  ended := ended

/-- On an unbroken course everything works but reads, of which this says nothing. -/
theorem Unbroken.worked (unbroken : Unbroken done) {deed : Deed} (there : deed ∈ done)
    (other : ∀ result, deed ≠ .read result) : deed.worked = true := by
  cases deed with
  | build result =>
      cases result with
      | ok line => rfl
      | error error => exact absurd there (unbroken.built error)
  | send line result =>
      cases result with
      | ok _ => rfl
      | error error => exact absurd there (unbroken.sent line error)
  | out bytes failure =>
      cases failure with
      | none => rfl
      | some error => exact absurd there (unbroken.writtenOut bytes error)
  | flushOut failure =>
      cases failure with
      | none => rfl
      | some error => exact absurd there (unbroken.flushedOut error)
  | err bytes failure =>
      cases failure with
      | none => rfl
      | some error => exact absurd there (unbroken.writtenErr bytes error)
  | flushErr failure =>
      cases failure with
      | none => rfl
      | some error => exact absurd there (unbroken.flushedErr error)
  | read result => exact absurd rfl (other result)

/-- A read that fails is not the end of the connection. -/
theorem end_not_mem_failed (early : .read (.ok none) ∉ done) (error : IoError) :
    .read (.ok none) ∉ done ++ [.read (.error error)] := by
  rw [List.mem_append, List.mem_singleton]
  rintro (there | same)
  · exact early there
  · cases same

theorem judged_of_failure (broken : ¬ Unbroken done) (error : ClientError) :
    Judged done stream (.error error) where
  success := ⟨nofun, fun both => absurd both.1 broken⟩
  serverError := ⟨nofun, fun both => absurd both.1 broken⟩
  failure := ⟨fun _ => broken, fun _ => ⟨error, rfl⟩⟩

theorem judged_of_outcome {outcome : Outcome} (unbroken : Unbroken done)
    (known : outcome = .serverError ↔ ReportsError stream) : Judged done stream (.ok outcome) where
  success := by
    rw [and_iff_right unbroken, ← known]
    cases outcome <;> simp
  serverError := by
    rw [and_iff_right unbroken, ← known]
    cases outcome <;> simp
  failure := by
    refine iff_of_false ?_ (not_not_intro unbroken)
    rintro ⟨_, ⟨⟩⟩

/-! ## Errors that are known or about to be -/

/-- What a task that works leaves of a line, and what it makes known. -/
theorem work_did (p : Platform) (items : List Item) (lasting : c.timeout ≠ some ⟨0⟩)
    (task : Task) (r : ReplyReader Session SessionEvent) :
    Ends (fun _ q => q.pending = task.keeps r.pending ∧
        (q.outcome = .serverError ↔ r.outcome = .serverError ∨ .act .serverError = task))
      (fun _ _ => True) (task.work c p items r) := by
  have other (never : .act .serverError ≠ task) :
      r.outcome = .serverError ↔ r.outcome = .serverError ∨ .act .serverError = task := by
    rw [or_iff_left never]
  cases task with
  | limit =>
      rw [Task.work, setTimeout_of_lasting lasting]
      exact .ok ⟨rfl, other (by simp)⟩
  | request first =>
      change Ends _ _ (ReplyReader.act (request c p items (leadingPart c first)) r)
      exact act_ends (fun _ => ⟨rfl, other (by simp)⟩) fun _ _ => trivial
  | flushErrors => exact flushErr_ends ⟨rfl, other (by simp)⟩ fun _ => trivial
  | tell | tellAgain | line | keep | lastLine | closeLine => exact .ok ⟨rfl, other (by simp)⟩
  | act action =>
      have did : Ends (fun _ => Did action r) (fun _ _ => True)
          (perform (handler c p items) action r) :=
        (perform_did _ action r).mono (fun _ _ did => did) fun _ _ _ => trivial
      have told (q : ReplyReader Session SessionEvent) (did : Did action r q) :
          q.pending = r.pending ∧ (q.outcome = .serverError ↔
            r.outcome = .serverError ∨ .act .serverError = Task.act action) := by
        rw [Task.act.injEq]
        exact ⟨did.pending, did.outcome⟩
      cases action with
      | unsupported => exact .ok ⟨rfl, other (by simp)⟩
      | err bytes => exact writeErr_ends ⟨rfl, other (by simp)⟩ fun _ => trivial
      | out | flush | atLineStart | serverError | serverPid | suspend =>
          exact did.mono (fun _ => told) fun _ _ _ => trivial

/-- Only looking at a line that reports an error makes one known. -/
theorem serverError_mem_more (task : Task) (r : ReplyReader Session SessionEvent) :
    .act .serverError ∈ task.more c r ↔ ∃ line ∈ task.looks, Reply.ReportsError line := by
  have among (actions : List Action) :
      .act .serverError ∈ acts actions ↔ .serverError ∈ actions := by
    simp [acts]
  cases task with
  | line bytes =>
      rw [Task.more]
      by_cases empty : bytes = []
      · subst empty
        simp [Task.looks, Reply.not_reportsError_nil]
      · rw [if_neg empty, among, Reply.serverError_mem_actions_iff]
        simp [Task.looks, Reply.ReportsError]
  | tell =>
      rw [Task.more]
      split <;> simp [among, Task.looks, Reply.openLine]
  | tellAgain =>
      rw [Task.more]
      split <;> simp [Task.looks]
  | closeLine =>
      rw [Task.more, Reply.closeLine]
      split <;> simp [among, Task.looks]
  | act action => cases action <;> simp [Task.more, Task.looks]
  | limit | request | flushErrors | keep | lastLine => simp [Task.more, Task.looks]

/-- An error of the server is known, or will be as soon as the session goes on. -/
def Knows (todo : List Task) (r : ReplyReader Session SessionEvent) : Prop :=
  r.outcome = .serverError ∨ .act .serverError ∈ todo

/-- What is known after a task that works is what was known before, and what the line reports
at which it looked. -/
theorem knows_more
    (same : q.outcome = .serverError ↔ r.outcome = .serverError ∨ .act .serverError = task) :
    Knows (task.more c r ++ todo) q ↔
      Knows (task :: todo) r ∨ ∃ line ∈ task.looks, Reply.ReportsError line := by
  rw [Knows, Knows, same, List.mem_append, serverError_mem_more, List.mem_cons]
  simp only [or_assoc, or_comm]

/-! ## A session on its way -/

/-- What is known of the deeds that are to lead up to a goal. -/
def Goal.Served (done : List Deed) : Goal → Prop
  | .read => Smooth done ∧ .read (.ok none) ∉ done
  | .result none => Smooth done ∧ .read (.ok none) ∈ done
  | .result (some _) => .read (.ok none) ∉ done

/-- A session that has done this, and has begun to act on these of the lines that it read. -/
structure Honest (done : List Deed) (passed : List Bytes) (todo : List Task) (goal : Goal)
    (r : ReplyReader Session SessionEvent) : Prop where
  looks : Looks (bytesRead done) passed todo goal r.pending
  knows : Knows todo r ↔ ∃ line ∈ passed, Reply.ReportsError line
  served : goal.Served done

/-- What holds of a session that has done this. -/
def Faithful (done : List Deed) (w : Situation) : Prop :=
  match w.stage with
  | .busy todo goal => ∃ passed, Honest done passed todo goal w.reader
  | .waiting _ => ∃ passed, Honest done passed [] .read w.reader
  | .finished result => Judged done (bytesRead done) result

/-- Deeds that work and are no reads serve every goal. -/
theorem Goal.Served.append (served : goal.Served done) (smooth : Smooth more)
    (silent : ∀ arrived, .read (.ok arrived) ∉ more) : goal.Served (done ++ more) := by
  have same : .read (.ok none) ∈ done ++ more ↔ .read (.ok none) ∈ done := by
    rw [List.mem_append, or_iff_left (silent none)]
  match goal with
  | .read => exact ⟨served.1.append smooth, same.not.mpr served.2⟩
  | .result none => exact ⟨served.1.append smooth, same.mpr served.2⟩
  | .result (some _) => exact same.not.mpr served

/-- What neither the lines nor the outcome show leaves a session as honest as it was. -/
theorem Honest.quiet (honest : Honest done passed todo goal r) (pending : q.pending = r.pending)
    (outcome : q.outcome = r.outcome) : Honest done passed todo goal q where
  looks := pending ▸ honest.looks
  knows := by
    rw [Knows, outcome]
    exact honest.knows
  served := honest.served

/-- A session that has nothing to do turns to tasks that look at lines. -/
theorem Honest.turns {todo : List Task} (honest : Honest done passed [] .read r)
    (none : .act .serverError ∉ todo) (outcome : q.outcome = r.outcome)
    (looks : Looks (bytesRead more) passed todo goal q.pending) (served : goal.Served more) :
    Honest more passed todo goal q where
  looks := looks
  knows := by
    rw [Knows, outcome, or_iff_left none, ← honest.knows, Knows, or_iff_left List.not_mem_nil]
  served := served

/-! ## What the session does -/

/-- A task that works. -/
theorem Honest.works {u : Unit} (lasting : c.timeout ≠ some ⟨0⟩)
    (honest : Honest done passed (task :: todo) goal r)
    (works : task.work c p items r = .ok u q) :
    Honest (done ++ task.deeds c p items r) (passed ++ task.looks) (task.more c r ++ todo) goal
      q := by
  have tells := task.tells p items lasting r
  have did := work_did p items lasting task r
  rw [works] at tells did
  obtain ⟨pending, outcome⟩ := did.post_of_ok
  have silent (arrived : Option Bytes) : .read (.ok arrived) ∉ task.deeds c p items r :=
    task.deeds_silent r (.ok arrived)
  constructor
  · rw [bytesRead_of_silent silent, pending]
    exact honest.looks.more
  · rw [knows_more outcome, honest.knows]
    simp only [List.mem_append, or_and_right, exists_or]
  · exact honest.served.append tells.post_of_ok silent

/-- A read that fails. -/
theorem Honest.broken (honest : Honest done passed [] .read r) (error : IoError) (held : Bytes) :
    Faithful (done ++ [.read (.error error)]) ⟨r, .broken error, held⟩ := by
  have early : .read (.ok none) ∉ done ++ [.read (.error error)] :=
    end_not_mem_failed honest.served.2 error
  rw [Stage.broken]
  split
  case isTrue => exact judged_of_failure (fun unbroken => early unbroken.ended) .timeout
  case isFalse =>
      have same : bytesRead (done ++ [.read (.error error)]) = bytesRead done :=
        bytesRead_of_silent fun arrived => by simp
      refine ⟨passed, honest.turns (by simp) rfl ?_ early⟩
      rw [same]
      exact honest.looks.ending (some error)

/-- A session that has nothing to do waits for the server, unless what is pending cannot be
written. -/
theorem Honest.reads (honest : Honest done passed [] .read r) (held : Bytes) :
    Faithful (done ++ Situation.deeds c p items ⟨r, .busy [] .read, held⟩)
      (advance c p items ⟨r, .busy [] .read, held⟩) := by
  simp only [advance, Situation.deeds]
  rcases r.state.flush with ⟨result, state⟩
  cases result with
  | ok _ =>
      rw [List.append_nil]
      exact ⟨passed, honest.quiet rfl rfl⟩
  | error error =>
      have idle : Honest done passed [] .read { r with state } := honest.quiet rfl rfl
      exact idle.broken error held

/-- A session that has done everything is over. -/
theorem Honest.ends {broken : Option IoError} (honest : Honest done passed [] (.result broken) r) :
    Judged done (bytesRead done) (verdict r.outcome broken) := by
  cases broken with
  | some error => exact judged_of_failure (fun unbroken => honest.served unbroken.ended) _
  | none =>
      refine judged_of_outcome (unbroken_of_smooth honest.served.1 honest.served.2) ?_
      have all : passed = Lines.complete (bytesRead done) ++ [Lines.tail (bytesRead done)] :=
        honest.looks.all
      have known : r.outcome = .serverError ↔ ∃ line ∈ passed, Reply.ReportsError line := by
        rw [← honest.knows, Knows, or_iff_left List.not_mem_nil]
      rw [known, ReportsError, Lines.segments_eq, ← all]
      constructor
      · rintro ⟨line, there, reports⟩
        refine ⟨line, List.mem_filter.mpr ⟨there, ?_⟩, reports⟩
        exact decide_eq_true fun empty => Reply.not_reportsError_nil (empty ▸ reports)
      · rintro ⟨line, there, reports⟩
        exact ⟨line, (List.mem_filter.mp there).1, reports⟩

/-- A read comes to something. -/
theorem Honest.told (honest : Honest done passed [] .read r) (undisturbed : Bool) (held : Bytes)
    (result : Except IoError (Option Bytes)) :
    Faithful (done ++ [.read result]) (Situation.told ⟨r, .waiting undisturbed, held⟩ result) := by
  have served := honest.served
  match result with
  | .ok (some bytes) =>
      have same : bytesRead (done ++ [.read (.ok (some bytes))]) = bytesRead done ++ bytes :=
        bytesRead_concat done _
      refine ⟨passed, honest.turns (by simp [takeIn]) rfl ?_ ⟨?_, ?_⟩⟩
      · rw [same]
        exact honest.looks.arrives bytes
      · exact served.1.append (List.forall_mem_singleton.mpr rfl)
      · simp [served.2]
  | .ok none =>
      have same : bytesRead (done ++ [.read (.ok none)]) = bytesRead done :=
        (bytesRead_concat done _).trans (List.append_nil _)
      refine ⟨passed, honest.turns (by simp) rfl ?_ ⟨?_, List.mem_concat_self⟩⟩
      · rw [same]
        exact honest.looks.ending none
      · exact served.1.append (List.forall_mem_singleton.mpr rfl)
  | .error error => exact honest.broken error held

/-- Whatever shows neither in the lines nor in the outcome leaves what is known as it is. -/
theorem Faithful.quiet (here : Faithful done w) (still : w'.stage.disturbed = w.stage.disturbed)
    (pending : w'.reader.pending = w.reader.pending)
    (outcome : w'.reader.outcome = w.reader.outcome) : Faithful done w' := by
  obtain ⟨r, stage, held⟩ := w
  obtain ⟨r', stage', held'⟩ := w'
  cases stage with
  | busy todo goal =>
      obtain ⟨passed, honest⟩ := here
      cases stage' with
      | busy =>
          cases still
          exact ⟨passed, honest.quiet pending outcome⟩
      | waiting | finished => cases still
  | waiting undisturbed =>
      obtain ⟨passed, honest⟩ := here
      cases stage' with
      | waiting => exact ⟨passed, honest.quiet pending outcome⟩
      | busy | finished => cases still
  | finished result =>
      cases stage' with
      | finished =>
          cases still
          exact here
      | busy | waiting => cases still

section

variable {connection : Connection} {out err : Sink}

end

end EditorClient.Session
