/-
# Sessions do not depend on how replies arrive

Where the replies of a server are cut into reads decides how often a session
flushes its buffers, and when it looks whether a request was sent again. The
flushes write nothing, and in a steady session looking does nothing either. So the
session comes to what its requests and the segments of the reply stream come to,
one after the other, in which no cut occurs. A flush of standard output comes with
each read, so none of them may fail.
-/

import EditorClient.Proofs.Session.Handler

namespace EditorClient.Session

open ReplyReader

variable {c : Config} {p : Platform} {items : List Item}
  {r r' : ReplyReader Session SessionEvent}

/-! ## The read loop -/

theorem reads_flatten (connection : Connection) :
    connection.reads.flatten = connection.arriving.flatten := by
  unfold Connection.reads
  induction connection.arriving with
  | nil => rfl
  | cons bytes rest ih =>
      by_cases empty : bytes = []
      · subst empty
        exact ih
      · rw [List.filter_cons_of_pos (by simpa using empty), List.flatMap_cons,
          List.flatten_append, ih, Pieces.flatten_fill, List.flatten_cons]

theorem showWaiting_apply (h : ReplyHandler Session SessionEvent)
    (r : ReplyReader Session SessionEvent) :
    showWaiting c h r =
      (if showsWaiting c r.state then showOpen h waitingMessage else pure ()) r := rfl

theorem afterRead_apply (h : ReplyHandler Session SessionEvent)
    (r : ReplyReader Session SessionEvent) :
    afterRead c h r = (if r.state.resent then showWaiting c h else pure ())
      { r with state := { r.state with resent := false } } := rfl

/-- Writing what is pending, in its two outcomes. -/
theorem beforeRead_apply (r : ReplyReader Session SessionEvent) :
    beforeRead r = match r.state.flush.1 with
      | .ok _ => .ok none ({ r with state := r.state.flush.2 }.record [.handler .reading])
      | .error error => .ok (some error) { r with state := r.state.flush.2 } := by
  rw [beforeRead]
  rcases r.state.flush with ⟨_ | _, _⟩ <;> rfl

/-- A reader at the beginning of a read, with nothing pending for the server. -/
def beginRead (r : ReplyReader Session SessionEvent) : ReplyReader Session SessionEvent :=
  { r with
    state := { r.state with
      buffer := { r.state.buffer with calls := .flushed :: r.state.buffer.calls } } }.record
        [.handler .reading]

@[simp]
theorem pending_beginRead (r : ReplyReader Session SessionEvent) :
    (beginRead r).pending = r.pending := rfl

theorem beforeRead_idle (idle : r.state.buffer.pending = []) :
    beforeRead r = .ok none (beginRead r) := by
  simp only [beforeRead, flush, SendBuffer.flush_idle idle]
  rfl

theorem alike_beginRead (alike : Alike isShown SameButReads r r') :
    Alike isShown SameButReads (beginRead r) r' := by
  apply Alike.record_left _ rfl
  exact { alike with
    state := { alike.state with
      buffer := { alike.state.buffer with calls := by simpa using alike.state.buffer.calls } } }

theorem steady_beginRead (steady : Steady c p r.state) : Steady c p (beginRead r).state :=
  ⟨steady.idle, steady.reliable, steady.settled, steady.silent⟩

/-- After a read there is nothing to tell the user. -/
theorem afterRead_silent (h : ReplyHandler Session SessionEvent)
    (steady : Steady c p r.state) :
    afterRead c h r = .ok () { r with state := { r.state with resent := false } } := by
  rw [afterRead_apply]
  by_cases resent : r.state.resent = true
  · have silent := steady.silent resent
    rw [if_pos resent]
    have quiet : showsWaiting c { r.state with resent := false } = false := silent
    rw [showWaiting_apply, if_neg (Bool.eq_false_iff.mp quiet)]
    rfl
  · rw [if_neg resent]
    rfl

theorem readAll_nil (h : ReplyHandler Session SessionEvent) (idle : r.state.buffer.pending = []) :
    readAll c h .closed [] r = .ok none (beginRead r) :=
  bind_of_ok (beforeRead_idle idle) _

theorem readAll_cons (h : ReplyHandler Session SessionEvent)
    (idle : r.state.buffer.pending = []) (bytes : Bytes) (rest : List Bytes) :
    readAll c h .closed (bytes :: rest) r =
      (feed h bytes >>= fun _ => afterRead c h >>= fun _ => readAll c h .closed rest)
        (beginRead r) :=
  bind_of_ok (beforeRead_idle idle) _

/-- The read loop of a steady session is acting on the lines that the reads complete
together with what was kept before. The induction is on the reads: each of them
leaves the session steady, so that the next begins with nothing to write. -/
theorem readAll_matches (items : List Item) (reads : List Bytes) (steady : Steady c p r.state)
    (flushes : r.Steady) (partial_ : Bytes.newline ∉ r.pending)
    (alike : Alike isShown SameButReads r r') :
    Matches (Alike isShown SameButReads) (readAll c (handler c p items) .closed reads r)
      (((Lines.complete (r.pending ++ reads.flatten)).forM (dispatch (handler c p items)) >>=
        fun _ => pure none) r') := by
  induction reads generalizing r r' with
  | nil =>
      rw [readAll_nil _ steady.idle, List.flatten_nil, List.append_nil,
        Lines.complete_of_not_mem partial_]
      exact .ok (alike_beginRead alike)
  | cons bytes rest ih =>
      rw [readAll_cons _ steady.idle, List.flatten_cons, ← List.append_assoc,
        Lines.complete_append, forM_dispatch_append, bind_assoc]
      have begun := alike_beginRead alike
      have ready : (beginRead r).Steady := flushes
      have fed := feed_matches (handler_respects c p items) rfl bytes ready begun
      apply fed.bind
      · intro _ s s' done _ later
        have works := feed_steady (handler c p items) bytes ready
        rw [done] at works
        have kept : s.pending = Lines.tail ((beginRead r).pending ++ bytes) := pending_of_feed done
        have still := feed_keeps (handler_keeps c p items) bytes (steady_beginRead steady) done
        rw [pending_beginRead] at kept
        rw [bind_of_ok (afterRead_silent _ still), ← kept]
        have next : Steady c p { s.state with resent := false } :=
          ⟨still.idle, still.reliable, still.settled, nofun⟩
        have after : Alike isShown SameButReads
            { s with state := { s.state with resent := false } } s' :=
          { later with state := { later.state with } }
        have still : ({ s with state := { s.state with resent := false } } :
            ReplyReader Session SessionEvent).Steady := works.post_of_ok
        apply ih next still _ after
        rw [kept]
        exact Lines.newline_not_mem_tail _
      · intro _ _ later
        exact later

/-- What is kept of a line after the last read is the rest of all that has arrived. -/
theorem pending_of_readAll {reads : List Bytes} {failure : Option IoError}
    (steady : Steady c p r.state) (partial_ : Bytes.newline ∉ r.pending)
    (done : readAll c (handler c p items) .closed reads r = .ok failure r') :
    r'.pending = Lines.tail (r.pending ++ reads.flatten) := by
  induction reads generalizing r with
  | nil =>
      rw [readAll_nil _ steady.idle] at done
      cases done
      rw [List.flatten_nil, List.append_nil, Lines.tail_of_not_mem partial_]
      rfl
  | cons bytes rest ih =>
      rw [readAll_cons _ steady.idle] at done
      obtain ⟨_, s, fed, others⟩ := bind_eq_ok.mp done
      have kept : s.pending = Lines.tail ((beginRead r).pending ++ bytes) := pending_of_feed fed
      have still := feed_keeps (handler_keeps c p items) bytes (steady_beginRead steady) fed
      rw [pending_beginRead] at kept
      rw [bind_of_ok (afterRead_silent _ still)] at others
      have next : Steady c p { s.state with resent := false } :=
        ⟨still.idle, still.reliable, still.settled, nofun⟩
      rw [ih next (kept ▸ Lines.newline_not_mem_tail _) others]
      show Lines.tail (s.pending ++ rest.flatten) = _
      rw [kept, List.flatten_cons, ← List.append_assoc, ← Lines.tail_append]

/-! ## From the first request to the last reply -/

/-- A session that acts on the segments of a reply stream without reading it. -/
def answerAll (c : Config) (p : Platform) (items : List Item) (stream : Bytes) : Step Outcome := do
  let h := handler c p items
  setTimeout c.timeout
  act (request c p items (Request.opening c))
  showWaiting c h
  let outcome ← answer h (Lines.segments stream)
  modify fun r => { r with state := r.state.close }
  return outcome

/-- A message at the start changes nothing but the output. -/
theorem showWaiting_keeps (h : ReplyHandler Session SessionEvent) (s : Session) (kept : Bytes) :
    Keeps (fun r => r.state = s ∧ r.pending = kept) (showWaiting c h) := by
  intro r _ r' same done
  change (if showsWaiting c r.state then showOpen h waitingMessage else pure ()) r = _ at done
  split at done
  · exact showOpen_keeps h waitingMessage s kept same done
  · cases done
    exact same

theorem showWaiting_steady (h : ReplyHandler Session SessionEvent) :
    Preserves ReplyReader.Steady (showWaiting c h) := by
  intro r steady
  change Ends _ _ ((if showsWaiting c r.state then showOpen h waitingMessage else pure ()) r)
  split
  · exact Preserves.forM (fun action _ => perform_steady h action) steady
  · exact .ok steady

/-- What follows the request, up to the end of the connection. -/
theorem readAll_finish_matches (reads : List Bytes) (steady : Steady c p r.state)
    (flushes : r.Steady) (fresh : r.pending = []) :
    Matches (Alike isShown SameButReads)
      ((readAll c (handler c p items) .closed reads >>= fun failure =>
        finish (handler c p items) >>= fun outcome =>
          (modify fun q => { q with state := q.state.close }) >>= fun _ =>
            match failure with
            | some error => throw (.io "failed to read from server" error)
            | none => pure outcome) r)
      ((answer (handler c p items) (Lines.segments reads.flatten) >>= fun outcome =>
        (modify fun q => { q with state := q.state.close }) >>= fun _ => pure outcome) r) := by
  have partial_ : Bytes.newline ∉ r.pending := by simp [fresh]
  have read := readAll_matches items reads steady flushes partial_
    (.refl SameButReads.refl r)
  rw [fresh, List.nil_append] at read
  have shape (next : Unit → Step Outcome) :
      ((Lines.complete reads.flatten).forM (dispatch (handler c p items)) >>= next) =
        (((Lines.complete reads.flatten).forM (dispatch (handler c p items)) >>= fun _ =>
          pure (none : Option IoError)) >>= fun _ => next ()) := by
    rw [bind_assoc]
    simp only [pure_bind]
  rw [answer_segments, bind_assoc, shape]
  have respects := handler_respects c p items
  apply read.bind
  · intro failure s s' here there later
    obtain ⟨_, _, _, ended⟩ := bind_eq_ok.mp there
    cases ended
    have kept := pending_of_readAll steady partial_ here
    rw [fresh, List.nil_append] at kept
    have last : Matches (Alike isShown SameButReads) (finish (handler c p items) s)
        ((dispatch (handler c p items) (Lines.tail reads.flatten) >>= fun _ =>
          closing (handler c p items)) s') := by
      have alone : Alike isShown SameButReads { s with pending := [] } s' := { later with }
      rw [finish_apply, kept]
      exact (dispatch_lockstep respects _).bind (fun _ => closing_lockstep respects) alone
    apply last.bind
    · intro outcome t t' _ _ final
      exact .ok { final with state := close_agrees final.state }
    · intro _ _ final
      exact final
  · intro _ _ later
    exact later

/-- A session whose requests leave it steady comes to what it makes of the segments of
the whole stream. -/
theorem converse_matches (items : List Item)
    (settled : c.timeout = some ⟨0⟩ ∨ Settled c (FrameTarget.ofConfig c))
    {connection : Connection} (closes : connection.ending = .closed)
    (starts : r.state = start c connection) (fresh : r.pending = []) (flushes : r.Steady)
    (reliable : connection.buffer.writer.Reliable ∨ p.whileStopped = []) :
    Matches (Alike isShown SameButReads) (converse c p items connection r)
      (answerAll c p items connection.arriving.flatten r) := by
  unfold converse answerAll
  rw [closes, ← reads_flatten]
  by_cases instant : c.timeout = some ⟨0⟩
  · have refused := setTimeout_of_instant instant r
    rw [bind_of_error refused, bind_of_error refused]
    exact .error (.refl SameButReads.refl r)
  · have settled := settled.resolve_left instant
    have limited := setTimeout_of_lasting instant r
    rw [bind_of_ok limited, bind_of_ok limited]
    cases requested : act (request c p items (Request.opening c)) r with
    | error e s =>
        rw [bind_of_error requested, bind_of_error requested]
        exact .error (.refl SameButReads.refl s)
    | ok u s =>
        rw [bind_of_ok requested, bind_of_ok requested]
        obtain ⟨sent, shape⟩ := act_ok requested
        cases told : showWaiting c (handler c p items) s with
        | error e t =>
            rw [bind_of_error told, bind_of_error told]
            exact .error (.refl SameButReads.refl t)
        | ok u t =>
            rw [bind_of_ok told, bind_of_ok told]
            obtain ⟨state, pending⟩ :=
              showWaiting_keeps (handler c p items) s.state s.pending ⟨rfl, rfl⟩ told
            have ready : s.Steady := by
              rw [shape]
              exact flushes
            have still := showWaiting_steady (c := c) (handler c p items) ready
            rw [told] at still
            refine readAll_finish_matches connection.reads ?_ still.post_of_ok ?_
            · rw [state, shape]
              refine steady_of_request sent ?_ ?_ ?_
              · rw [starts]
                exact reliable
              · rw [starts]
                exact settled
              · rw [starts]
                exact nofun
            · rw [pending, shape]
              exact fresh

/-! ## What is seen of a session -/

section

variable {input : Bytes} {connection : Connection} {out err : Sink}

/-- A session that comes to an outcome. -/
theorem run_of_ok {outcome : Outcome} (comes : converse c p (Item.all c input) connection
      { suppressed := c.suppressOutput, out, err, state := start c connection } = .ok outcome r) :
    run c p input connection out err = .of (.ok outcome) r := by
  unfold run
  dsimp only
  rw [comes]

/-- A session that fails. -/
theorem run_of_error {error : ClientError} (comes : converse c p (Item.all c input) connection
      { suppressed := c.suppressOutput, out, err, state := start c connection } = .error error r) :
    run c p input connection out err = .of (.error error) r := by
  unfold run
  dsimp only
  rw [comes]

end

/-- The bytes that an event brought to standard output. -/
def outBytes : Event SessionEvent → Bytes
  | .out bytes => bytes
  | _ => []

/-- The bytes that an event brought to standard error. -/
def errBytes : Event SessionEvent → Bytes
  | .err bytes => bytes
  | _ => []

/-- Standard output of a session. -/
def Report.out (r : Report) : Bytes := r.events.flatMap outBytes

/-- Standard error of a session. -/
def Report.err (r : Report) : Bytes := r.events.flatMap errBytes

/-- Two sessions had the same result, wrote and sent the same bytes, and did the same in
the same order. -/
structure Report.Agrees (r r' : Report) : Prop where
  result : r.result = r'.result
  out : r.out = r'.out
  err : r.err = r'.err
  sent : r.sent = r'.sent
  events : r.events.filter isShown = r'.events.filter isShown

theorem flatMap_filter_isShown (f : Event SessionEvent → Bytes)
    (silent : ∀ e, isShown e = false → f e = []) (events : List (Event SessionEvent)) :
    (events.filter isShown).flatMap f = events.flatMap f := by
  induction events with
  | nil => rfl
  | cons event rest ih =>
      cases shown : isShown event with
      | true => rw [List.filter_cons_of_pos shown, List.flatMap_cons, ih, List.flatMap_cons]
      | false =>
          rw [List.filter_cons_of_neg (by simp [shown]), ih, List.flatMap_cons,
            silent event shown, List.nil_append]

theorem outBytes_of_not_isShown (e : Event SessionEvent) (silent : isShown e = false) :
    outBytes e = [] := by
  cases e <;> first | rfl | nomatch silent

theorem errBytes_of_not_isShown (e : Event SessionEvent) (silent : isShown e = false) :
    errBytes e = [] := by
  cases e <;> first | rfl | nomatch silent

/-- Readers that are alike are seen alike. -/
theorem agrees_of_alike (alike : Alike isShown SameButReads r r')
    (result : Except ClientError Outcome) :
    Report.Agrees (.of result r) (.of result r') := by
  have events : (Report.of result r).events.filter isShown =
      (Report.of result r').events.filter isShown := by
    change r.events.filter isShown = r'.events.filter isShown
    rw [ReplyReader.events, ReplyReader.events, List.filter_reverse, List.filter_reverse, alike.log]
  refine ⟨rfl, ?_, ?_, (close_agrees alike.state).buffer.taken, events⟩
  · rw [Report.out, Report.out, ← flatMap_filter_isShown _ outBytes_of_not_isShown, events,
      flatMap_filter_isShown _ outBytes_of_not_isShown]
  · rw [Report.err, Report.err, ← flatMap_filter_isShown _ errBytes_of_not_isShown, events,
      flatMap_filter_isShown _ errBytes_of_not_isShown]

/-- However the bytes of the server are cut, a session that is settled from the start
comes to the same. -/
theorem run_agrees (settled : c.timeout = some ⟨0⟩ ∨ Settled c (FrameTarget.ofConfig c))
    (input : Bytes) {out : Sink} (flushes : out.Steady) (err : Sink)
    {connection connection' : Connection}
    (buffer : connection.buffer = connection'.buffer)
    (closes : connection.ending = .closed) (closes' : connection'.ending = .closed)
    (stream : connection.arriving.flatten = connection'.arriving.flatten)
    (reliable : connection.buffer.writer.Reliable ∨ p.whileStopped = []) :
    (run c p input connection out err).Agrees (run c p input connection' out err) := by
  have starts : start c connection = start c connection' := by rw [start, start, buffer]
  obtain ⟨r, shape⟩ : ∃ r : ReplyReader Session SessionEvent,
    r = { suppressed := c.suppressOutput, out, err, state := start c connection } := ⟨_, rfl⟩
  have state : r.state = start c connection := by rw [shape]
  have fresh : r.pending = [] := by rw [shape]
  have ready : r.Steady := shape ▸ flushes
  have first := converse_matches (Item.all c input) settled closes state fresh ready reliable
  have second := converse_matches (Item.all c input) settled closes' (state.trans starts) fresh
    ready (buffer ▸ reliable)
  rw [← stream] at second
  have both := first.trans_right (fun _ _ _ here there =>
    here.of_common (fun _ _ _ same same' => same.of_common same') there) second
  unfold run
  rw [← starts]
  dsimp only
  rw [← shape]
  generalize converse c p (Item.all c input) connection r = result at both ⊢
  generalize converse c p (Item.all c input) connection' r = result' at both ⊢
  cases both with
  | ok alike => exact agrees_of_alike alike _
  | error alike => exact agrees_of_alike alike _

end EditorClient.Session
