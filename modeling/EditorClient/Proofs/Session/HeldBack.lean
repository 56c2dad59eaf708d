/-
# Nothing is held back while a session waits

A session waits for the server only when the server and the user have got everything that is
meant for them: whatever came into the send buffer has been taken by the connection, and both
outputs have been flushed. Otherwise both sides could wait for each other. This holds in all
courses of a session, except that a signal can reach the bridge while the session waits, and
what the bridge then fails to write stays in the buffer until the next read.

Output is written by lines and by the message that the client waits. The invariant is that
what is left to do flushes it after the last line that might have written something. When
what is pending cannot be written, or an output cannot be flushed, the session reads no more
and comes to its end with an error, since no task can undo that.
-/

import EditorClient.Proofs.Session.Passing

namespace EditorClient.Session

open ReplyReader

/-! ## Standard output -/

/-- What is held of standard output after an event. -/
def holdOut (held : Bytes) : Event SessionEvent → Bytes
  | .out bytes => held ++ bytes
  | .flushed => []
  | _ => held

/-- What was written to standard output and has not been flushed. -/
def unflushed (events : List (Event SessionEvent)) : Bytes := events.foldl holdOut []

variable {c : Config} {p : Platform} {items : List Item} {w w' : Situation}
  {r q : ReplyReader Session SessionEvent}

theorem unflushed_record (more : List (Event SessionEvent))
    (r : ReplyReader Session SessionEvent) :
    unflushed (r.record more).events = more.foldl holdOut (unflushed r.events) := by
  rw [events_record, unflushed, List.foldl_append]
  rfl

/-- What the handler reports is no output. -/
theorem foldl_holdOut_handler (reports : List SessionEvent) (held : Bytes) :
    (reports.map Event.handler).foldl holdOut held = held := by
  induction reports with
  | nil => rfl
  | cons report rest ih => exact ih

theorem unflushed_acted (f : Session → Except ClientError Unit × Session × List SessionEvent)
    (r : ReplyReader Session SessionEvent) :
    unflushed (acted f r).events = unflushed r.events := by
  rw [acted, unflushed_record, foldl_holdOut_handler]
  rfl

/-- If everything was flushed before, it still is. -/
def StaysFlushed (r q : ReplyReader Session SessionEvent) : Prop :=
  unflushed r.events = [] → unflushed q.events = []

/-- Whether a task writes to standard output by itself. -/
def Task.writes : Task → Bool
  | .act (.out _) => true
  | _ => false

/-- Only the tasks that write to standard output leave something to be flushed. -/
theorem work_staysFlushed (c : Config) (p : Platform) (items : List Item) {task : Task}
    (quiet : task.writes = false) (r : ReplyReader Session SessionEvent) :
    Ends (fun _ => StaysFlushed r) (fun _ => StaysFlushed r) (task.work c p items r) := by
  have same (f : Session → Except ClientError Unit × Session × List SessionEvent)
      (q : ReplyReader Session SessionEvent) (events : unflushed q.events = unflushed r.events) :
      Ends (fun _ => StaysFlushed r) (fun _ => StaysFlushed r) (ReplyReader.act f q) := by
    have left : StaysFlushed r (acted f q) := fun all => by rw [unflushed_acted, events, all]
    exact act_ends (fun _ => left) fun _ _ => left
  cases task with
  | limit =>
      change Ends _ _ (setTimeout c.timeout r)
      rw [setTimeout]
      split
      · exact .error id
      · exact .ok id
  | request first => exact same (request c p items (leadingPart c first)) r rfl
  | tell | tellAgain | line | keep | lastLine | closeLine => exact .ok id
  | flushErrors => exact flushErr_ends id fun _ => id
  | act action =>
      cases action with
      | out bytes => cases quiet
      | err bytes =>
          have wrote : StaysFlushed r (wroteErr bytes r) := by
            intro all
            rw [wroteErr, unflushed_record]
            split <;> exact all
          exact writeErr_ends wrote fun _ => wrote
      | flush => exact flushOut_ends (fun _ => unflushed_record _ _) fun _ => id
      | atLineStart | serverError => exact .ok id
      | serverPid | unsupported => exact .ok fun all => (unflushed_record _ _).trans all
      | suspend =>
          exact same (fun s => (.ok (), suspend p s)) (r.record [.suspend]) (unflushed_record _ _)

/-! ## What is left to do flushes it -/

/-- After these tasks everything is flushed that they write to standard output, and that was
written before if something was. -/
def FlushFollows : (written : Bool) → List Task → Prop
  | written, [] => written = false
  | _, .act (.out _) :: rest => FlushFollows true rest
  | _, .line _ :: rest => FlushFollows true rest
  | _, .lastLine :: rest => FlushFollows true rest
  | _, .act .flush :: rest => FlushFollows false rest
  | written, _ :: rest => FlushFollows written rest

/-- What flushes something flushes nothing as well. -/
theorem FlushFollows.mono {todo : List Task} (follows : FlushFollows true todo)
    (written : Bool) : FlushFollows written todo := by
  cases written with
  | true => exact follows
  | false =>
      induction todo with
      | nil => rfl
      | cons task rest ih =>
          cases task with
          | act action =>
              cases action with
              | out | flush => exact follows
              | _ => exact ih follows
          | line | lastLine => exact follows
          | _ => exact ih follows

/-- Actions may write whatever they want if a flush follows. -/
theorem flushFollows_acts {rest : List Task} (follows : FlushFollows true rest)
    (actions : List Action) (written : Bool) : FlushFollows written (acts actions ++ rest) := by
  induction actions generalizing written with
  | nil => exact follows.mono written
  | cons action later ih => cases action <;> exact ih _

theorem flushFollows_lines {rest : List Task} (follows : FlushFollows true rest)
    (lines : List Bytes) (written : Bool) :
    FlushFollows written (lines.map .line ++ rest) := by
  induction lines generalizing written with
  | nil => exact follows.mono written
  | cons line later ih => exact ih true

/-- What a task leaves is followed by a flush if the task was. -/
theorem flushFollows_more {task : Task} {rest : List Task} {written : Bool}
    (follows : FlushFollows written (task :: rest)) :
    ∃ written', FlushFollows written' (task.more c r ++ rest) ∧
      (written' = false → written = false ∧ task.writes = false ∨ task = .act .flush) := by
  have never {P : Prop} (none : true = false) : P := absurd none Bool.noConfusion
  have dry {rest : List Task} (follows : FlushFollows written rest) : FlushFollows false rest := by
    cases written with
    | true => exact follows.mono false
    | false => exact follows
  have plain (still : FlushFollows written (task.more c r ++ rest))
      (quiet : task.writes = false) :
      ∃ written', FlushFollows written' (task.more c r ++ rest) ∧
        (written' = false → written = false ∧ task.writes = false ∨ task = .act .flush) :=
    ⟨written, still, fun none => .inl ⟨none, quiet⟩⟩
  cases task with
  | limit | request | flushErrors | keep => exact plain follows rfl
  | tell =>
      refine plain ?_ rfl
      rw [Task.more]
      split
      · exact dry follows
      · exact follows
  | tellAgain =>
      refine plain ?_ rfl
      rw [Task.more]
      split <;> exact follows
  | closeLine =>
      refine plain ?_ rfl
      rw [Task.more, Reply.closeLine]
      split <;> exact dry follows
  | line bytes =>
      refine ⟨true, ?_, never⟩
      rw [Task.more]
      split
      · exact follows
      · exact flushFollows_acts follows _ true
  | lastLine => exact ⟨true, follows, never⟩
  | act action =>
      cases action with
      | out bytes => exact ⟨true, follows, never⟩
      | flush => exact ⟨false, follows, fun _ => .inr rfl⟩
      | _ => exact plain follows rfl

/-! ## The invariant -/

/-- What holds of a session on its way. -/
def Prepared (w : Situation) : Prop :=
  match w.stage with
  | .busy todo .read =>
    (∃ written, FlushFollows written todo ∧
      (written = false → unflushed w.reader.events = [])) ∧
      (w.held = [] ∨ ∃ rest, todo = .flushErrors :: rest)
  | .waiting undisturbed =>
    unflushed w.reader.events = [] ∧ w.held = [] ∧
      (undisturbed = true → w.reader.state.buffer.pending = [])
  | .busy _ (.result _) | .finished _ => True

theorem prepared_start (connection : Connection) (out err : Sink) :
    Prepared (.start c connection out err) :=
  ⟨⟨false, rfl, fun _ => rfl⟩, .inl rfl⟩

/-- A task that works, among others. -/
theorem prepared_task {task : Task} {todo : List Task} {held : Bytes}
    (prepared : Prepared ⟨r, .busy (task :: todo) .read, held⟩) {u : Unit}
    (works : task.work c p items r = .ok u q) :
    Prepared ⟨q, .busy (task.more c r ++ todo) .read, task.holds held r⟩ := by
  obtain ⟨⟨written, follows, all⟩, errors⟩ := prepared
  obtain ⟨written', later, flushed⟩ := flushFollows_more (c := c) (r := r) follows
  -- Standard error is another matter: its flush is a task of its own right after the write.
  refine ⟨⟨written', later, fun none => ?_⟩, ?_⟩
  · rcases flushed none with ⟨before, quiet⟩ | rfl
    · have stays := work_staysFlushed c p items quiet r
      rw [works] at stays
      exact stays.post_of_ok (all before)
    · obtain ⟨-, rfl⟩ := flushOut_ok works
      exact unflushed_record _ _
  · have emptied (flushes : Task.flushErrors.work c p items r = .ok u q) :
        Task.flushErrors.holds held r = [] := by
      rw [Task.holds, (flushErr_ok flushes).1]
    rcases errors with none | ⟨rest, same⟩
    · subst none
      cases task with
      | act action =>
          cases action with
          | err bytes => exact .inr ⟨todo, rfl⟩
          | _ => exact .inl rfl
      | flushErrors => exact .inl (emptied works)
      | _ => exact .inl rfl
    · cases same
      exact .inl (emptied works)

/-- A session that has nothing to do before reading has flushed everything. -/
theorem flushed_of_idle {held : Bytes} (prepared : Prepared ⟨r, .busy [] .read, held⟩) :
    unflushed r.events = [] ∧ held = [] := by
  obtain ⟨⟨written, follows, all⟩, none | ⟨rest, nothing⟩⟩ := prepared
  · exact ⟨all follows, none⟩
  · nomatch nothing

theorem prepared_broken (error : IoError) (r : ReplyReader Session SessionEvent) (held : Bytes) :
    Prepared ⟨r, .broken error, held⟩ := by
  rw [Stage.broken]
  split <;> trivial

theorem pending_of_flush {s state : Session} {u : Unit} (flushed : s.flush = (.ok u, state)) :
    state.buffer.pending = [] := by
  rw [flush] at flushed
  cases wrote : SendBuffer.flush s.buffer with
  | error e b =>
      rw [wrote] at flushed
      cases flushed
  | ok _ b =>
      rw [wrote] at flushed
      cases flushed
      exact (SendBuffer.flush_ok wrote).2

/-- What the session does by itself keeps the invariant. -/
theorem prepared_advance (prepared : Prepared w) : Prepared (advance c p items w) := by
  obtain ⟨r, stage, held⟩ := w
  cases stage with
  | waiting | finished => exact prepared
  | busy todo goal =>
      cases todo with
      | nil =>
          cases goal with
          | result broken => trivial
          | read =>
              obtain ⟨all, none⟩ := flushed_of_idle prepared
              simp only [advance]
              rcases flushed : r.state.flush with ⟨result, state⟩
              cases result with
              | error error => exact prepared_broken error _ held
              | ok _ =>
                  exact ⟨(unflushed_record _ _).trans all, none, fun _ => pending_of_flush flushed⟩
      | cons task todo =>
          simp only [advance]
          cases done : task.work c p items r with
          | error e q => trivial
          | ok u q =>
              cases goal with
              | result broken => trivial
              | read => exact prepared_task prepared done

theorem unflushed_signalled (number : Signal) (foreground : Foreground)
    (fails : JobCall → Option IoError) (r : ReplyReader Session SessionEvent) :
    unflushed (signalled number foreground fails r).events = unflushed r.events := by
  rw [signalled, unflushed_record, foldl_holdOut_handler]
  rfl

/-- What happens around the session keeps the invariant. A signal is the reason why something
can be pending while the session waits. -/
theorem Outside.prepared (happens : Outside w w') (prepared : Prepared w) : Prepared w' := by
  obtain ⟨r, stage, held⟩ := w
  cases happens with
  | arrives bytes waits =>
      cases waits
      obtain ⟨all, none, -⟩ := prepared
      have flushes : FlushFollows true
          [.keep (Lines.tail (r.pending ++ bytes)), .act .flush, .tellAgain] := rfl
      refine ⟨⟨false, ?_, fun _ => all⟩, .inl none⟩
      rw [takeIn, List.append_assoc]
      exact flushFollows_lines flushes _ false
  | closes waits => trivial
  | breaks error waits => exact prepared_broken error _ held
  | interrupts waits =>
      cases waits
      obtain ⟨all, none, empty⟩ := prepared
      exact ⟨(unflushed_record _ _).trans all, none, empty⟩
  | drops error =>
      cases stage with
      | waiting | finished => exact prepared
      | busy todo goal => cases goal <;> exact prepared
  | signal number foreground fails bridged =>
      have same := unflushed_signalled number foreground fails r
      cases stage with
      | finished => trivial
      | waiting undisturbed => exact ⟨same.trans prepared.1, prepared.2.1, nofun⟩
      | busy todo goal =>
          cases goal with
          | result broken => trivial
          | read =>
              obtain ⟨⟨written, follows, all⟩, errors⟩ := prepared
              exact ⟨⟨written, follows, fun none => same.trans (all none)⟩, errors⟩

theorem Change.prepared (change : Change c p items w w') (prepared : Prepared w) :
    Prepared w' := by
  cases change with
  | own busy => exact prepared_advance prepared
  | outside happens => exact happens.prepared prepared

theorem prepared_of_changes {connection : Connection} {out err : Sink}
    (changes : Changes c p items (.start c connection out err) w) : Prepared w := by
  induction changes with
  | refl => exact prepared_start connection out err
  | tail _ change ih => exact change.prepared ih

/-! ## Reads -/

/-- The stream to the server only grows. -/
theorem Change.grows (change : Change c p items w w') :
    w.reader.state.buffer.stream <+: w'.reader.state.buffer.stream := by
  cases change with
  | own busy => exact (advance_passes c p items w).grows
  | outside happens =>
      obtain ⟨_, passes, -⟩ := happens.passes
      exact passes.grows

theorem Changes.grows (changes : Changes c p items w w') :
    w.reader.state.buffer.stream <+: w'.reader.state.buffer.stream := by
  induction changes with
  | refl => exact List.prefix_rfl
  | tail _ change ih => exact ih.trans change.grows

/-- How many reads a session has begun. -/
def Situation.readings (w : Situation) : Nat := readingsOf w.reader.events

/-- Everything that is meant for the server and the user has left the client. -/
structure NothingHeld (w : Situation) : Prop where
  sent : w.reader.state.buffer.pending = []
  out : unflushed w.reader.events = []
  err : w.held = []

/-- A session that begins to read waits. -/
theorem stage_of_readsNext (next : w.readsNext = true) :
    (advance c p items w).stage = .waiting true := by
  obtain ⟨r, stage, held⟩ := w
  cases stage with
  | waiting | finished => cases next
  | busy todo goal =>
      cases todo with
      | cons task todo => cases next
      | nil =>
          cases goal with
          | result broken => cases next
          | read =>
              simp only [Situation.readsNext] at next
              simp only [advance]
              rcases flushed : r.state.flush with ⟨result, state⟩
              rw [flushed] at next
              cases result with
              | error error => cases next
              | ok _ => rfl

/-- A session begins a read when it has nothing else to do, or again when it was interrupted
in one. In both cases it holds nothing back. -/
theorem nothingHeld_of_reading (prepared : Prepared w) (change : Change c p items w w')
    (reads : w.readings < w'.readings) (undisturbed : w.stage ≠ .waiting false) :
    NothingHeld w' := by
  have after := change.prepared prepared
  -- Waiting undisturbed is all that matters: the invariant holds the rest of it.
  suffices waits : w'.stage = .waiting true by
    rw [Prepared, waits] at after
    exact ⟨after.2.2 rfl, after.1, after.2.1⟩
  cases change with
  | own busy =>
      refine stage_of_readsNext ?_
      by_contra not
      have same := (advance_passes c p items w).readings
      rw [Bool.not_eq_true] at not
      rw [not] at same
      exact absurd same (Nat.ne_of_gt reads)
  | outside happens =>
      obtain ⟨begun, passes, interrupted⟩ := happens.passes
      have some : 0 < begun := by
        have grown := passes.readings
        rw [Situation.readings, Situation.readings, grown] at reads
        omega
      obtain ⟨flag, waits, same⟩ := interrupted some
      cases flag with
      | true => rw [same, waits]
      | false => exact absurd waits undisturbed

/-! ## A connection that does not take what is pending -/

/-- Whether a session can only come to an end with an error. -/
def Stage.Fails : Stage → Prop
  | .busy _ (.result (some _)) => True
  | .finished (.error _) => True
  | _ => False

/-- How much of a task there is at most. -/
def Task.weight : Task → Nat
  | .limit | .request _ | .keep _ | .flushErrors => 1
  | .act _ => 2
  | .tell | .closeLine => 7
  | .tellAgain => 8
  | .line _ => 11
  | .lastLine => 12

/-- How much there is of several tasks. -/
def weights : List Task → Nat
  | [] => 0
  | task :: rest => task.weight + weights rest

theorem weights_append (first later : List Task) :
    weights (first ++ later) = weights first + weights later := by
  induction first with
  | nil => exact (Nat.zero_add _).symm
  | cons task rest ih =>
      rw [List.cons_append, weights, weights, ih, Nat.add_assoc]

/-- How much a session has left to do at most before it reads or is over. -/
def Stage.remaining : Stage → Nat
  | .busy todo _ => weights todo + 1
  | .waiting _ | .finished _ => 0

theorem weights_acts (actions : List Action) : weights (acts actions) = 2 * actions.length := by
  induction actions with
  | nil => rfl
  | cons action rest ih =>
      have first : weights (acts (action :: rest)) = 2 + weights (acts rest) := rfl
      rw [first, ih, List.length_cons]
      omega

theorem length_actions (reply : Reply) (atLineStart suppressed : Bool) :
    (reply.actions atLineStart suppressed).length ≤ 5 := by
  have fresh : (Reply.freshLine atLineStart).length ≤ 1 := by
    cases atLineStart <;> decide
  have recorded (text : Bytes) : (Reply.recordEnd text).length ≤ 1 := by
    rw [Reply.recordEnd]
    split <;> simp
  cases reply with
  | serverPid | windowSystemUnsupported => simp [Reply.actions]
  | print text =>
      rw [Reply.actions]
      split
      · simp
      · have := recorded text
        simp only [List.length_append, List.length_cons]
        omega
  | printNoNewline text =>
      rw [Reply.actions]
      split
      · simp
      · have := recorded text
        simp only [List.length_cons]
        omega
  | error text =>
      have := recorded text
      simp only [Reply.actions, List.length_append, List.length_cons, List.length_nil]
      omega
  | suspend | unknown =>
      simp only [Reply.actions, List.length_append, List.length_cons, List.length_nil]
      omega

/-- What a task leaves is less than the task was. -/
theorem weights_more (task : Task) (r : ReplyReader Session SessionEvent) :
    weights (task.more c r) < task.weight := by
  cases task with
  | limit | request | keep | flushErrors | lastLine => simp [Task.more, Task.weight, weights]
  | act action => cases action <;> simp [Task.more, Task.weight, weights]
  | tell =>
      rw [Task.more]
      split
      · rw [weights_acts]
        decide
      · decide
  | tellAgain =>
      rw [Task.more]
      split <;> decide
  | line bytes =>
      rw [Task.more]
      split
      · exact Nat.zero_lt_succ _
      · have few := length_actions (Reply.parse bytes) r.atLineStart r.suppressed
        rw [weights_acts, Task.weight]
        omega
  | closeLine =>
      rw [Task.more, weights_acts, Reply.closeLine]
      split <;> decide

theorem fails_task (c : Config) (p : Platform) (items : List Item) (task : Task)
    (todo : List Task) (error : IoError) (r : ReplyReader Session SessionEvent) (held : Bytes) :
    let w : Situation := ⟨r, .busy (task :: todo) (.result (some error)), held⟩
    (advance c p items w).stage.Fails ∧
      (advance c p items w).stage.remaining < w.stage.remaining := by
  simp only [advance]
  cases task.work c p items r with
  | error e q => exact ⟨trivial, Nat.zero_lt_succ _⟩
  | ok _ q =>
      have less := weights_more (c := c) task r
      refine ⟨trivial, ?_⟩
      simp only [Stage.remaining, weights_append, weights]
      omega

/-- A session that can only come to an end with an error goes on to do so. -/
theorem fails_advance (c : Config) (p : Platform) (items : List Item)
    (fails : w.stage.Fails) :
    (advance c p items w).stage.Fails ∧ (advance c p items w).readings = w.readings ∧
      ((∃ e, w.stage = .finished (.error e)) ∨
        (advance c p items w).stage.remaining < w.stage.remaining) := by
  have passes := (advance_passes c p items w).readings
  obtain ⟨r, stage, held⟩ := w
  cases stage with
  | waiting => exact fails.elim
  | finished result =>
      cases result with
      | ok outcome => exact fails.elim
      | error e => exact ⟨trivial, rfl, .inl ⟨e, rfl⟩⟩
  | busy todo goal =>
      rcases goal with _ | _ | error
      · exact fails.elim
      · exact fails.elim
      · cases todo with
        | nil => exact ⟨trivial, passes, .inr (Nat.zero_lt_succ _)⟩
        | cons task todo =>
            obtain ⟨still, less⟩ := fails_task c p items task todo error r held
            exact ⟨still, passes, .inr less⟩

/-- Whatever happens around such a session, it is still one. -/
theorem Outside.fails (happens : Outside w w') (fails : w.stage.Fails) :
    w'.stage.Fails ∧ w'.readings = w.readings ∧ w'.stage.remaining = w.stage.remaining := by
  obtain ⟨begun, passes, interrupted⟩ := happens.passes
  have none : begun = 0 := by
    by_contra some
    obtain ⟨flag, waits, -⟩ := interrupted (Nat.pos_of_ne_zero some)
    rw [waits] at fails
    exact fails
  have readings : w'.readings = w.readings := by
    have grown := passes.readings
    rwa [none, Nat.add_zero] at grown
  cases happens with
  | arrives bytes waits | closes waits | breaks error waits | interrupts waits =>
      rw [waits] at fails
      exact fails.elim
  | drops error => exact ⟨fails, readings, rfl⟩
  | signal number foreground system bridged =>
      have still : w.stage.disturbed = w.stage := by
        cases stage : w.stage with
        | waiting flag =>
            rw [stage] at fails
            exact fails.elim
        | busy | finished => rfl
      exact ⟨still.symm ▸ fails, readings, congrArg Stage.remaining still⟩

theorem Changes.fails (changes : Changes c p items w w') (fails : w.stage.Fails) :
    w'.stage.Fails ∧ w'.readings = w.readings := by
  induction changes with
  | refl => exact ⟨fails, rfl⟩
  | tail _ change ih =>
      obtain ⟨still, same⟩ := ih
      cases change with
      | own busy =>
          obtain ⟨later, reads, -⟩ := fails_advance c p items still
          exact ⟨later, reads.trans same⟩
      | outside happens =>
          obtain ⟨later, reads, -⟩ := happens.fails still
          exact ⟨later, reads.trans same⟩

theorem busy_of_fails (fails : w.stage.Fails) :
    (∃ todo error, w.stage = .busy todo (.result (some error))) ∨
      ∃ error, w.stage = .finished (.error error) := by
  rcases w with ⟨r, ⟨todo, _ | _ | error⟩ | _ | error | _, held⟩
  · exact fails.elim
  · exact fails.elim
  · exact .inl ⟨todo, error, rfl⟩
  · exact fails.elim
  · exact .inr ⟨error, rfl⟩
  · exact fails.elim

/-- A session that cannot write what is pending does not begin to read, and can only come to
an end with an error. -/
theorem fails_of_flush (c : Config) (p : Platform) (items : List Item) {error : IoError}
    {state : Session} (idle : w.stage = .busy [] .read)
    (flushed : w.reader.state.flush = (.error error, state)) :
    (advance c p items w).stage.Fails ∧ (advance c p items w).readings = w.readings := by
  obtain ⟨r, stage, held⟩ := w
  subst idle
  have passes := (advance_passes c p items ⟨r, .busy [] .read, held⟩).readings
  simp only [Situation.readsNext, flushed] at passes
  refine ⟨?_, passes⟩
  simp only [advance, flushed, Stage.broken]
  split <;> trivial

/-- A session that fails at a task, which may be to write to one of its outputs or to flush it,
reads no more. -/
theorem fails_of_work (c : Config) (p : Platform) (items : List Item) {task : Task}
    {todo : List Task} {goal : Goal} {error : ClientError}
    (next : w.stage = .busy (task :: todo) goal)
    (failed : task.work c p items w.reader = .error error r) :
    (advance c p items w).stage.Fails ∧ (advance c p items w).readings = w.readings := by
  have passes := (advance_passes c p items w).readings
  obtain ⟨q, stage, held⟩ := w
  subst next
  refine ⟨?_, passes⟩
  simp only [advance, failed]
  trivial

/-- What is left of a session that could not write or flush something: it reads no more, and it
is over with an error after a number of steps of its own that has a bound. -/
structure OnlyEnds (c : Config) (p : Platform) (items : List Item) (readings : Nat)
    (w : Situation) : Prop where
  unread : w.readings = readings
  /-- It is over, or it has something to do and less of it afterwards. -/
  ends : (∃ error, w.stage = .finished (.error error)) ∨
    (∃ todo error, w.stage = .busy todo (.result (some error))) ∧
      (advance c p items w).stage.remaining < w.stage.remaining
  /-- Nothing that happens around it gives it more to do. -/
  around : ∀ w', Outside w w' → w'.stage.remaining = w.stage.remaining

theorem onlyEnds_of_fails (c : Config) (p : Platform) (items : List Item)
    (fails : w.stage.Fails) : OnlyEnds c p items w.readings w where
  unread := rfl
  ends := by
    rcases busy_of_fails fails with busy | finished
    · rcases (fails_advance c p items fails).2.2 with finished | less
      · exact .inl finished
      · exact .inr ⟨busy, less⟩
    · exact .inl finished
  around _ happens := (happens.fails fails).2.2

/-- In every course that a session can take, of which each run is one: whenever it begins to
read, nothing is held back. Whatever has ever been in the send buffer has then been taken by
the connection, and both outputs have been flushed. The exception is a read that is begun again
after a signal has reached the bridge in the meantime. If what is pending cannot be written,
the session reads neither then nor later, and it ends with an error. It does so too if a task
fails, for instance to flush one of the outputs. -/
theorem nothing_held_back_at_reads (c : Config) (p : Platform) (input : Bytes)
    (connection : Connection) (out err : Sink) :
    let items := Item.all c input
    let begun := Situation.start c connection out err
    let report := run c p input connection out err
    (∃ w, Changes c p items begun w ∧ w.stage = .finished report.result ∧
      w.reader.state = report.session ∧ w.reader.events = report.events) ∧
    ∀ w, Changes c p items begun w →
      (∀ w', Change c p items w w' → w.readings < w'.readings → w.stage ≠ .waiting false →
        NothingHeld w' ∧ ∀ v, Changes c p items begun v → Changes c p items v w' →
          v.reader.state.buffer.stream <+: w'.reader.state.buffer.taken) ∧
      (∀ error state, w.stage = .busy [] .read →
        w.reader.state.flush = (.error error, state) →
        ∀ v, Changes c p items (advance c p items w) v → OnlyEnds c p items w.readings v) ∧
      ∀ task todo goal error q, w.stage = .busy (task :: todo) goal →
        task.work c p items w.reader = .error error q →
        ∀ v, Changes c p items (advance c p items w) v → OnlyEnds c p items w.readings v := by
  intro items begun report
  have ends {w : Situation} (fails : (advance c p items w).stage.Fails)
      (unread : (advance c p items w).readings = w.readings) :
      ∀ v, Changes c p items (advance c p items w) v → OnlyEnds c p items w.readings v := by
    intro v later
    obtain ⟨still, same⟩ := later.fails fails
    have ends := onlyEnds_of_fails c p items still
    rwa [same, unread] at ends
  refine ⟨run_changes c p input connection out err, fun w changes => ⟨?_, ?_, ?_⟩⟩
  · intro w' change reads undisturbed
    have held : NothingHeld w' :=
      nothingHeld_of_reading (prepared_of_changes changes) change reads undisturbed
    have all : w'.reader.state.buffer.stream = w'.reader.state.buffer.taken := by
      rw [SendBuffer.stream, held.sent, List.append_nil]
    exact ⟨held, fun v _ later => all ▸ later.grows⟩
  · intro error state idle flushed
    obtain ⟨fails, unread⟩ := fails_of_flush c p items idle flushed
    exact ends fails unread
  · intro task todo goal error q next failed
    obtain ⟨fails, unread⟩ := fails_of_work c p items next failed
    exact ends fails unread

/-- A client that is stopped while its connection takes nothing. What the server is to be told
is pending while the client waits, and has been taken when it begins to read again. -/
theorem suspendLine_taken_at_next_read :
    let c := { twoDisplays with env := ⟨[(Bytes.ofText "TERM", Bytes.ofText "xterm")]⟩ }
    let p : Platform :=
      { terminal := fun _ => Terminal.ofEnvironment (some (Bytes.ofText "/dev/pts/3")) c.env }
    let items := Item.all c []
    let connection : Connection :=
      { buffer := { writer := { script :=
        [.accepts 5, .interrupted, .accepts 4096, .fails .brokenPipe] } } }
    let begun := Situation.start c connection {} {}
    let stopped (w : Situation) : Situation :=
      { w with
        reader := signalled Signal.terminalStop .yes (fun _ => none) w.reader
        stage := w.stage.disturbed }
    let told (w : Situation) : Situation :=
      { w with
        reader := { w.reader with pending := Bytes.ofText "-print x\n" }
        stage := .busy (takeIn (Bytes.ofText "-print x\n") ++ [.tellAgain]) .read }
    let waiting := stopped ((advance c p items)^[7] begun)
    let w := (advance c p items)^[7] (told waiting)
    let w' := advance c p items w
    waiting.stage = .waiting false ∧ waiting.reader.state.buffer.pending = suspendLine ∧
      Changes c p items begun w ∧ w.readings < w'.readings ∧ NothingHeld w' ∧
      w'.reader.state.buffer.taken = Bytes.ofText
        "-env TERM=xterm -dir /w/ -display :9 -tty /dev/pts/3 xterm -window-system -file f \n" ++
        suspendLine := by
  intro c p items connection begun stopped told waiting w w'
  have bridged : ((advance c p items)^[7] begun).reader.state.bridged = true := by
    decide +kernel
  have waits : waiting.stage = .waiting false := by decide +kernel
  have kept : waiting.reader.pending = [] := by decide +kernel
  have signal : Change c p items ((advance c p items)^[7] begun) waiting :=
    .outside (.signal Signal.terminalStop .yes (fun _ => none) bridged)
  have arrives : Change c p items waiting (told waiting) := by
    have happens := Outside.arrives (Bytes.ofText "-print x\n") waits
    rw [kept] at happens
    exact .outside happens
  have changes : Changes c p items begun w :=
    ((changes_advance c p items 7 begun).tail signal).tail arrives |>.trans
      (changes_advance c p items 7 (told waiting))
  have idle : w.stage = .busy [] .read := by decide +kernel
  have reads : w.readings < w'.readings := by decide +kernel
  have pending : waiting.reader.state.buffer.pending = suspendLine := by decide +kernel
  have sent : w'.reader.state.buffer.taken = Bytes.ofText
      "-env TERM=xterm -dir /w/ -display :9 -tty /dev/pts/3 xterm -window-system -file f \n" ++
      suspendLine := by decide +kernel
  obtain ⟨-, each⟩ := nothing_held_back_at_reads c p [] connection {} {}
  obtain ⟨held, -⟩ := (each w changes).1 w' (.own idle) reads (idle ▸ nofun)
  exact ⟨waits, pending, changes, reads, held, sent⟩

end EditorClient.Session
