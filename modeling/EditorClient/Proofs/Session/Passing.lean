/-
# What a change of a session leaves

Whatever a session does or meets, nothing is taken out of the stream to the server, the
bridge goes on seeing whether the frame is on our terminal, and the bridge is started only by
a request that offered the terminal and was sent. A read is begun only where a session has
nothing else to do. All of this is said of one task by `Passes`, and of one change after the
other by the lemmas that follow.
-/

import EditorClient.Proofs.Session.Stages

namespace EditorClient.Session

open ReplyReader

/-! ## What is looked at -/

/-- The start of the bridge that an event is, if it is one: the process number and the place
of the frame that the bridge was started with. -/
def startOf : Event SessionEvent → Option (Option Int32 × Bool)
  | .handler (.bridge pid onTerminal) => some (pid, onTerminal)
  | _ => none

/-- The starts of the bridge among events, in order. -/
def startsOf (events : List (Event SessionEvent)) : List (Option Int32 × Bool) :=
  events.filterMap startOf

theorem startsOf_append (events more : List (Event SessionEvent)) :
    startsOf (events ++ more) = startsOf events ++ startsOf more :=
  List.filterMap_append

/-- Whether a read was begun. -/
def isReading : Event SessionEvent → Bool
  | .handler .reading => true
  | _ => false

/-- How many reads were begun. -/
def readingsOf (events : List (Event SessionEvent)) : Nat := events.countP isReading

theorem readingsOf_append (events more : List (Event SessionEvent)) :
    readingsOf (events ++ more) = readingsOf events + readingsOf more :=
  List.countP_append

/-- The bridge sees whether the frame is on our terminal. -/
def Level (s : Session) : Prop := s.onTerminal = s.target.terminal

/-- What a step of a session leaves that starts the bridge in this way. -/
structure Yields (starts : List (Option Int32 × Bool)) (s s' : Session)
    (reports : List SessionEvent) : Prop where
  /-- Nothing is taken out of the stream to the server. -/
  grows : s.buffer.stream <+: s'.buffer.stream
  level : Level s → Level s'
  bridged : s'.bridged = (s.bridged || !starts.isEmpty)
  unread : readingsOf (reports.map .handler) = 0
  started : startsOf (reports.map .handler) = starts

/-- The same of a reader, where so many reads are begun. -/
structure Passes (reads : Nat) (starts : List (Option Int32 × Bool))
    (r q : ReplyReader Session SessionEvent) : Prop where
  grows : r.state.buffer.stream <+: q.state.buffer.stream
  level : Level r.state → Level q.state
  bridged : q.state.bridged = (r.state.bridged || !starts.isEmpty)
  readings : readingsOf q.events = readingsOf r.events + reads
  starts : startsOf q.events = startsOf r.events ++ starts

variable {c : Config} {p : Platform} {items : List Item} {s : Session}
  {r q t : ReplyReader Session SessionEvent}

/-! ## Steps of a session -/

/-- Sending adds to the stream, also where it fails. -/
theorem stream_send (message : Bytes) (b : SendBuffer) :
    Ends (fun _ b' => b.stream <+: b'.stream) (fun _ b' => b.stream <+: b'.stream)
      (SendBuffer.send message b) := by
  cases sent : SendBuffer.send message b with
  | ok _ b' => exact .ok ⟨message, (SendBuffer.send_ok sent).1.symm⟩
  | error e b' =>
      obtain ⟨⟨kept, -, grown⟩, -⟩ := SendBuffer.send_error sent
      exact .error ⟨kept, grown.symm⟩

/-- The bridge acts on a signal. -/
theorem stream_handle (b : Bridge) (number : Signal) (buffer : SendBuffer) :
    buffer.stream <+: (b.handle number buffer).buffer.stream := by
  rw [(Bridge.handle_follows b number buffer).tries.buffer_eq, SendBuffer.stream_afterAll]
  exact List.prefix_append _ _

theorem yields_signal (s : Session) (number : Signal) (foreground : Foreground) :
    Yields [] s (s.signal number foreground).1 (s.signal number foreground).2 where
  grows := stream_handle _ _ _
  level := id
  bridged := (Bool.or_false _).symm
  unread := by
    rw [signal]
    split <;> simp [readingsOf, isReading, Function.comp_def]
  started := by
    rw [signal]
    split <;> simp [startsOf, startOf, List.filterMap_append, Function.comp_def]

theorem Yields.trans {s' s'' : Session} {reports more : List SessionEvent}
    (here : Yields [] s s' reports) (later : Yields [] s' s'' more) :
    Yields [] s s'' (reports ++ more) where
  grows := here.grows.trans later.grows
  level := later.level ∘ here.level
  bridged := by rw [later.bridged, here.bridged, List.isEmpty_nil, Bool.not_true, Bool.or_false]
  unread := by rw [List.map_append, readingsOf_append, here.unread, later.unread]
  started := by
    rw [List.map_append, startsOf_append, here.started, later.started, List.append_nil]

theorem yields_signals (list : List (Signal × Foreground)) (s : Session) :
    Yields [] s (signals list s).1 (signals list s).2 := by
  induction list generalizing s with
  | nil => exact ⟨List.prefix_rfl, id, (Bool.or_false _).symm, rfl, rfl⟩
  | cons first rest ih => exact (yields_signal s first.1 first.2).trans (ih _)

theorem yields_suspend (p : Platform) (s : Session) :
    Yields [] s (suspend p s).1 (suspend p s).2 := by
  rw [suspend]
  split
  · exact yields_signals p.whileStopped s
  · exact yields_signals [] s

/-- How a request starts the bridge, if it does: it has to offer the terminal, and to be
sent. -/
def requestStarts (c : Config) (p : Platform) (items : List Item) (opening : Request)
    (s : Session) : List (Option Int32 × Bool) :=
  match Request.body c s.target items (p.terminal s.asked) with
  | .error _ => []
  | .ok body =>
    match SendBuffer.send (opening ++ body).encode s.buffer with
    | .error _ _ => []
    | .ok _ _ => if body.offersTerminal then [(knownPid s.pid, s.onTerminal)] else []

/-- A request leaves the target as it is, whatever becomes of it. -/
theorem yields_request (opening : Request) (s : Session) :
    Yields (requestStarts c p items opening s) s (request c p items opening s).2.1
      (request c p items opening s).2.2 := by
  rw [request_eq, requestStarts]
  obtain ⟨events, same⟩ : ∃ events, events =
      if c.wantsTerminal then [SessionEvent.terminal (p.terminal s.asked).isOk] else [] := ⟨_, rfl⟩
  have unread : readingsOf (events.map .handler) = 0 := by rw [same]; split <;> rfl
  have none : startsOf (events.map .handler) = [] := by rw [same]; split <;> rfl
  have asked : Yields [] s (asking c s) events := by
    rw [asking_eq]
    exact ⟨List.prefix_rfl, id, (Bool.or_false _).symm, unread, none⟩
  dsimp only
  rw [← same]
  cases Request.body c s.target items (p.terminal s.asked) with
  | error error => exact asked
  | ok body =>
      have grows := stream_send (opening ++ body).encode s.buffer
      dsimp only
      cases sent : SendBuffer.send (opening ++ body).encode s.buffer with
      | error error buffer =>
          rw [sent] at grows
          cases grows with
          | error grows => exact { asked with grows }
      | ok _ buffer =>
          rw [sent] at grows
          cases offers : body.offersTerminal with
          | false => exact { asked with grows := grows.post_of_ok }
          | true =>
              dsimp only
              rw [if_pos rfl, if_pos rfl]
              refine ⟨grows.post_of_ok, asked.level, (Bool.or_true _).symm, ?_, ?_⟩
              · rw [List.map_append, readingsOf_append, unread]
                rfl
              · rw [List.map_append, startsOf_append, none]
                rfl

/-! ## Tasks -/

/-- A step of the reader that leaves the stream, the bridge and the target as they are. -/
theorem passes_record {reads : Nat} {more : List (Event SessionEvent)}
    (buffer : q.state.buffer.stream = r.state.buffer.stream)
    (level : Level r.state → Level q.state) (bridged : q.state.bridged = r.state.bridged)
    (log : q.log = r.log) (begun : readingsOf more = reads) (none : startsOf more = []) :
    Passes reads [] r (q.record more) := by
  have same : q.events = r.events := congrArg List.reverse log
  refine ⟨?_, level, bridged.trans (Bool.or_false _).symm, ?_, ?_⟩
  · exact buffer ▸ List.prefix_rfl
  · rw [events_record, readingsOf_append, same, begun]
  · rw [events_record, startsOf_append, same, none]

/-- A step of the reader that reports nothing. -/
theorem passes_silent (buffer : q.state.buffer.stream = r.state.buffer.stream)
    (level : Level r.state → Level q.state) (bridged : q.state.bridged = r.state.bridged)
    (log : q.log = r.log) : Passes 0 [] r q := by
  have recorded : Passes 0 [] r (q.record []) := passes_record buffer level bridged log rfl rfl
  exact recorded

theorem Passes.refl (r : ReplyReader Session SessionEvent) : Passes 0 [] r r :=
  passes_silent rfl id rfl rfl

/-- A read is begun. -/
theorem Passes.begun (here : Passes 0 [] r q) :
    Passes 1 [] r (q.record [.handler .reading]) := by
  refine ⟨here.grows, here.level, here.bridged, ?_, ?_⟩
  · rw [events_record, readingsOf_append, here.readings]
    rfl
  · rw [events_record, startsOf_append, here.starts]
    exact List.append_nil _

/-- The handler takes a step. -/
theorem Passes.acted {starts : List (Option Int32 × Bool)}
    {f : Session → Except ClientError Unit × Session × List SessionEvent}
    (here : Passes 0 [] r q) (yields : Yields starts q.state (f q.state).2.1 (f q.state).2.2) :
    Passes 0 starts r (acted f q) where
  grows := here.grows.trans yields.grows
  level := yields.level ∘ here.level
  bridged := by
    have same : q.state.bridged = r.state.bridged := here.bridged.trans (Bool.or_false _)
    exact same ▸ yields.bridged
  readings := by rw [events_acted, readingsOf_append, here.readings, yields.unread]
  starts := by
    rw [events_acted, startsOf_append, here.starts, yields.started, List.append_nil]

/-- How a task starts the bridge, if it does. -/
def Task.starts (c : Config) (p : Platform) (items : List Item) (s : Session) :
    Task → List (Option Int32 × Bool)
  | .request first => requestStarts c p items (leadingPart c first) s
  | _ => []

theorem passes_wroteErr (bytes : Bytes) (r : ReplyReader Session SessionEvent) :
    Passes 0 [] r (wroteErr bytes r) := by
  rw [wroteErr]
  split
  · exact passes_record rfl id rfl rfl rfl rfl
  · exact passes_record rfl id rfl rfl rfl rfl

theorem perform_passes {action : Action} (other : action ≠ .unsupported)
    (r : ReplyReader Session SessionEvent) :
    Ends (fun _ => Passes 0 [] r) (fun _ => Passes 0 [] r)
      (perform (handler c p items) action r) := by
  cases action with
  | out bytes =>
      have wrote : Passes 0 [] r (wroteOut bytes r) := by
        rw [wroteOut]
        split
        · exact passes_record rfl id rfl rfl rfl rfl
        · exact passes_record rfl id rfl rfl rfl rfl
      exact writeOut_ends wrote fun _ => wrote
  | err bytes =>
      have wrote := passes_wroteErr bytes r
      have reported : Passes 0 [] r (reported bytes r) := { wrote with }
      exact perform_err_ends reported (fun _ => wrote) fun _ => reported
  | flush =>
      exact flushOut_ends (passes_record rfl id rfl rfl rfl rfl) fun _ =>
        passes_silent rfl id rfl rfl
  | atLineStart | serverError => exact .ok (passes_silent rfl id rfl rfl)
  | serverPid pid => exact .ok (passes_record rfl id rfl rfl rfl rfl)
  | unsupported => exact absurd rfl other
  | suspend =>
      have told : Passes 0 [] r (r.record [.suspend]) := passes_record rfl id rfl rfl rfl rfl
      have left : Passes 0 [] r (acted (fun s => (.ok (), suspend p s)) (r.record [.suspend])) :=
        told.acted (yields_suspend p r.state)
      rw [perform_suspend]
      exact act_ends (fun _ => left) fun _ _ => left

/-- One task, whether it works or fails. -/
theorem work_passes (task : Task) (r : ReplyReader Session SessionEvent) :
    Ends (fun _ => Passes 0 (task.starts c p items r.state) r)
      (fun _ => Passes 0 (task.starts c p items r.state) r) (task.work c p items r) := by
  cases task with
  | limit =>
      change Ends _ _ (setTimeout c.timeout r)
      rw [setTimeout]
      split
      · exact .error (.refl r)
      · exact .ok (.refl r)
  | request first =>
      have left : Passes 0 (requestStarts c p items (leadingPart c first) r.state) r
          (acted (request c p items (leadingPart c first)) r) :=
        (Passes.refl r).acted (yields_request _ r.state)
      exact act_ends (fun _ => left) fun _ _ => left
  | tell | tellAgain | line | keep | lastLine | closeLine =>
      exact .ok (passes_silent rfl id rfl rfl)
  | flushErrors =>
      exact flushErr_ends (passes_silent rfl id rfl rfl) fun _ => passes_silent rfl id rfl rfl
  | act action =>
      by_cases asks : action = .unsupported
      · subst asks
        have fell : Passes 0 [] r ({ r with state := fallen r.state }.record [.unsupported]) :=
          passes_record rfl (fun _ => rfl) rfl rfl rfl rfl
        exact .ok fell
      · have left : Ends (fun _ => Passes 0 [] r) (fun _ => Passes 0 [] r)
            (perform (handler c p items) action r) := perform_passes asks r
        cases action with
        | unsupported => exact absurd rfl asks
        | err bytes =>
            have wrote := passes_wroteErr bytes r
            exact writeErr_ends wrote fun _ => wrote
        | _ => exact left

/-! ## Changes -/

/-- Whether a session begins to read next: it has nothing else to do, and all that is pending
can be written. -/
def Situation.readsNext (w : Situation) : Bool :=
  match w.stage with
  | .busy [] .read => w.reader.state.flush.1.isOk
  | _ => false

/-- How a session starts the bridge next, if it does. -/
def Situation.startsNext (c : Config) (p : Platform) (items : List Item) (w : Situation) :
    List (Option Int32 × Bool) :=
  match w.stage with
  | .busy (task :: _) _ => task.starts c p items w.reader.state
  | _ => []

/-- A flush leaves the stream as it is, also where it fails. -/
theorem stream_flush (s : Session) : s.flush.2.buffer.stream = s.buffer.stream := by
  rw [flush]
  cases flushed : SendBuffer.flush s.buffer with
  | ok _ b => exact (SendBuffer.flush_ok flushed).1
  | error e b => exact (SendBuffer.flush_error flushed).1

theorem flush_eq (s : Session) : s.flush.2 = { s with buffer := s.flush.2.buffer } := by
  rw [flush]
  split <;> rfl

theorem passes_flush (r : ReplyReader Session SessionEvent) :
    Passes 0 [] r { r with state := r.state.flush.2 } := by
  have same := stream_flush r.state
  rw [flush_eq]
  exact passes_silent same id rfl rfl

theorem passes_close (r : ReplyReader Session SessionEvent) :
    Passes 0 [] r { r with state := r.state.close } := by
  rw [close]
  split
  · exact .refl r
  · have same := stream_flush r.state
    rw [flush_eq]
    exact passes_silent same id rfl rfl

/-- What a session does next by itself. -/
theorem advance_passes (c : Config) (p : Platform) (items : List Item) (w : Situation) :
    Passes w.readsNext.toNat (w.startsNext c p items) w.reader (advance c p items w).reader := by
  obtain ⟨r, stage, held⟩ := w
  cases stage with
  | waiting | finished => exact .refl r
  | busy todo goal =>
      cases todo with
      | nil =>
          cases goal with
          | result broken => exact passes_close r
          | read =>
              have wrote := passes_flush r
              simp only [Situation.readsNext, advance]
              rcases flushed : r.state.flush with ⟨result, state⟩
              rw [flushed] at wrote
              cases result with
              | error error => exact wrote
              | ok _ => exact wrote.begun
      | cons task todo =>
          have left : Ends (fun _ => Passes 0 (task.starts c p items r.state) r)
              (fun _ => Passes 0 (task.starts c p items r.state) r) (task.work c p items r) :=
            work_passes task r
          simp only [Situation.readsNext, Situation.startsNext, advance]
          cases done : task.work c p items r with
          | ok _ q =>
              rw [done] at left
              exact left.post_of_ok
          | error e q =>
              rw [done] at left
              exact left.failed_of_error

/-- The bridge acts on a signal. -/
theorem passes_signalled (number : Signal) (foreground : Foreground)
    (fails : JobCall → Option IoError) (r : ReplyReader Session SessionEvent) :
    Passes 0 [] r (signalled number foreground fails r) := by
  have jobs (calls : List JobCall) :
      readingsOf ((calls.map SessionEvent.job).map .handler) = 0 ∧
        startsOf ((calls.map SessionEvent.job).map .handler) = [] := by
    induction calls with
    | nil => exact ⟨rfl, rfl⟩
    | cons call rest ih => exact ih
  obtain ⟨unread, none⟩ := jobs ((r.state.sees foreground fails).handle number r.state.buffer).calls
  refine ⟨stream_handle _ _ _, id, (Bool.or_false _).symm, ?_, ?_⟩
  · rw [signalled, events_record, readingsOf_append, unread]
    rfl
  · rw [signalled, events_record, startsOf_append, none]
    rfl

/-- Whatever happens around a session: only an interrupted read is begun again. -/
theorem Outside.passes {w w' : Situation} (happens : Outside w w') :
    ∃ reads, Passes reads [] w.reader w'.reader ∧
      (0 < reads → ∃ undisturbed, w.stage = .waiting undisturbed ∧
        w' = { w with reader := w'.reader }) := by
  cases happens with
  | arrives bytes waits => exact ⟨0, passes_silent rfl id rfl rfl, nofun⟩
  | closes waits => exact ⟨0, .refl _, nofun⟩
  | breaks error waits => exact ⟨0, .refl _, nofun⟩
  | interrupts waits => exact ⟨1, (Passes.refl _).begun, fun _ => ⟨_, waits, rfl⟩⟩
  | drops error => exact ⟨0, passes_silent rfl id rfl rfl, nofun⟩
  | signal number foreground fails bridged =>
      exact ⟨0, passes_signalled number foreground fails w.reader, nofun⟩

end EditorClient.Session
