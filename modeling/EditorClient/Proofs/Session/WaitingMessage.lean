/-
# The message that is shown again

When a request was sent again for another display, the user is told again that the
client waits. This is looked at once for each read, after all lines of the read
were acted on. So where the message stands, and whether it is shown at all, depends
on which lines arrived in one read.

This needs a configuration with an alternate display in which the user is told of
waiting at all. For every other configuration the reads do not matter.
-/

import EditorClient.Proofs.Session.Chunks

namespace EditorClient.Session

open ReplyReader

variable {c : Config} {items : List Item} {s : Session}
  {r r' : ReplyReader Session SessionEvent}

/-- The user is told that the client waits, and is to be told so again after a request
was sent for the alternate display. -/
structure WaitsAgain (c : Config) : Prop where
  timeout : c.timeout ≠ some ⟨0⟩
  altDisplay : c.altDisplay ≠ none
  eval : c.eval = false
  quiet : c.quiet = false
  terminal : c.terminal = false
  noWait : c.noWait = false

theorem settled_of_not_waitsAgain (never : ¬ WaitsAgain c) :
    c.timeout = some ⟨0⟩ ∨ Settled c (FrameTarget.ofConfig c) := by
  by_contra otherwise
  obtain ⟨timeout, unsettled⟩ := not_or.mp otherwise
  simp only [Settled, FrameTarget.ofConfig, not_or, Bool.not_eq_true] at unsettled
  obtain ⟨altDisplay, eval, quiet, terminal, noWait⟩ := unsettled
  exact never ⟨timeout, altDisplay, eval, quiet, terminal, noWait⟩

/-! ## A server that refuses two displays

With no terminal to offer, the first refusal leads to a request for the alternate
display, and the second to an error. -/

/-- A platform on which no terminal can be offered. -/
def withoutTerminal : Platform := { terminal := fun _ => .error .noName }

/-- The reply of a server that cannot use the window system. -/
def refusal : Bytes := Bytes.ofText "-window-system-unsupported"

/-- What a reader has written to standard output. -/
def shown (r : ReplyReader Session SessionEvent) : Bytes := r.events.flatMap outBytes

theorem shown_record (events : List (Event SessionEvent)) (r : ReplyReader Session SessionEvent) :
    shown (r.record events) = shown r ++ events.flatMap outBytes := by
  simp [shown, ReplyReader.events, ReplyReader.record, List.flatMap_append]

/-- A session that asks for a frame on a display and waits for it, with nothing on the
way to the server, and so many messages shown. -/
structure Told (times : Nat) (r : ReplyReader Session SessionEvent) : Prop where
  sink : r.out = {}
  shown : shown r = (List.replicate times (Bytes.ofText waitingMessage)).flatten
  idle : r.state.buffer.pending = []
  reliable : r.state.buffer.writer.Reliable
  onDisplay : r.state.target.terminal = false
  waits : r.state.target.noWait = false

theorem body_works (c : Config) (items : List Item) (reason : TerminalError) {t : FrameTarget}
    (onDisplay : t.terminal = false) :
    ∃ body, Request.body c t items (.error reason) = .ok body := by
  have none : Request.terminalPart c t (.error reason) = .ok [] := by
    unfold Request.terminalPart
    split
    · simp [onDisplay]
    · rfl
  rw [Request.body, none]
  exact ⟨_, rfl⟩

/-- A request for a display can be sent though there is no terminal to offer. -/
theorem request_works (c : Config) (items : List Item) (opening : Request)
    (onDisplay : s.target.terminal = false) (reliable : s.buffer.writer.Reliable) :
    (request c withoutTerminal items opening s).1 = .ok () := by
  obtain ⟨body, built⟩ := body_works c items .noName onDisplay
  obtain ⟨b', sent, -⟩ := SendBuffer.send_reliable (opening ++ body).encode reliable
  have none : withoutTerminal.terminal s.asked = .error .noName := rfl
  rw [request_eq, none, built]
  dsimp only
  rw [sent]
  dsimp only
  split <;> rfl

/-- A request for the terminal cannot be built where there is none. -/
theorem request_fails (items : List Item) (opening : Request) (eval : c.eval = false)
    (onTerminal : s.target.terminal = true) :
    ∃ e, (request c withoutTerminal items opening s).1 = .error e := by
  have part : Request.terminalPart c s.target (.error .noName) =
      .error (.terminal TerminalError.noName.message) := by
    simp [Request.terminalPart, Config.wantsTerminal, eval, onTerminal]
  have none : withoutTerminal.terminal s.asked = .error .noName := rfl
  refine ⟨.terminal TerminalError.noName.message, ?_⟩
  rw [request_eq, none, Request.body, part]
  rfl

/-- What a session reports is no output. -/
theorem shown_acted (f : Session → Except ClientError Unit × Session × List SessionEvent)
    (r : ReplyReader Session SessionEvent) : shown (acted f r) = shown r := by
  have silent : ((f r.state).2.2.map Event.handler).flatMap outBytes = [] := by
    simp [List.flatMap_map, outBytes]
  rw [acted, shown_record, silent, List.append_nil]
  rfl

/-- A step of the session that leaves it waiting for its display. -/
theorem told_act {n : Nat} {f : Session → Except ClientError Unit × Session × List SessionEvent}
    (told : Told n r) (works : (f r.state).1 = .ok ())
    (idle : (f r.state).2.1.buffer.pending = [])
    (reliable : (f r.state).2.1.buffer.writer.Reliable)
    (onDisplay : (f r.state).2.1.target.terminal = false)
    (waits : (f r.state).2.1.target.noWait = false) :
    ∃ r', act f r = .ok () r' ∧ Told n r' ∧ r'.state = (f r.state).2.1 ∧
      r'.pending = r.pending := by
  refine ⟨_, act_of_ok works, ⟨told.sink, ?_, idle, reliable, onDisplay, waits⟩, rfl, rfl⟩
  rw [shown_acted]
  exact told.shown

/-- The first request is sent. -/
theorem told_request {n : Nat} (told : Told n r) (items : List Item) (opening : Request) :
    ∃ r', act (request c withoutTerminal items opening) r = .ok () r' ∧ Told n r' ∧
      r'.state.target = r.state.target ∧ r'.pending = r.pending := by
  have works := request_works c items opening told.onDisplay told.reliable
  obtain ⟨idle, reliable, target, -⟩ := request_ok works
  obtain ⟨r', done, still, state, kept⟩ := told_act told works idle (reliable told.reliable)
    (target ▸ told.onDisplay) (target ▸ told.waits)
  exact ⟨r', done, still, state ▸ target, kept⟩

/-- The user is told once more. -/
theorem told_showWaiting {n : Nat} (told : Told n r) (h : ReplyHandler Session SessionEvent)
    (eval : c.eval = false) (quiet : c.quiet = false) :
    ∃ r', showWaiting c h r = .ok () r' ∧ Told (n + 1) r' ∧ r'.state = r.state ∧
      r'.pending = r.pending := by
  have waiting : showsWaiting c r.state = true := by
    simp [showsWaiting, eval, quiet, told.onDisplay, told.waits]
  let written : ReplyReader Session SessionEvent :=
    { r with out := {} }.record [.out (Bytes.ofText waitingMessage)]
  have writes : writeOut (Bytes.ofText waitingMessage) r = .ok () written := by
    rw [writeOut_apply, wroteOut, told.sink, Sink.failure_takesAll, Sink.after_takesAll]
    rfl
  have flushes : flushOut written = .ok () (written.record [.flushed]) := flushOut_of_steady rfl
  change ∃ r', (if showsWaiting c r.state then showOpen h waitingMessage else pure ()) r =
    .ok () r' ∧ _
  rw [if_pos waiting]
  have shows : showOpen h waitingMessage r =
      .ok () { written.record [.flushed] with atLineStart := false } :=
    (bind_of_ok writes _).trans (bind_of_ok flushes _)
  refine ⟨_, shows, ⟨rfl, ?_, told.idle, told.reliable, told.onDisplay, told.waits⟩, rfl, rfl⟩
  change (Event.flushed :: Event.out (Bytes.ofText waitingMessage) :: r.log).reverse.flatMap
    outBytes = _
  have before : r.log.reverse.flatMap outBytes = _ := told.shown
  rw [List.replicate_succ', List.flatten_append, ← before]
  simp [List.flatMap_append, outBytes]

theorem dispatch_refusal (h : ReplyHandler Session SessionEvent)
    (r : ReplyReader Session SessionEvent) :
    dispatch h refusal r = act h.unsupported (r.record [.unsupported]) :=
  dispatch_of_isRefusal h (by decide) r

theorem told_record {n : Nat} (told : Told n r) :
    Told n (r.record [.unsupported]) :=
  ⟨told.sink, by rw [shown_record, told.shown]; simp [outBytes], told.idle,
    told.reliable, told.onDisplay, told.waits⟩

/-- The first refusal: the request is sent again for the alternate display. -/
theorem told_first_refusal {n : Nat} (told : Told n r) (items : List Item)
    (altDisplay : r.state.target.altDisplay ≠ none) :
    ∃ r', dispatch (handler c withoutTerminal items) refusal r = .ok () r' ∧ Told n r' ∧
      r'.state.target.altDisplay = none ∧ r'.state.resent = true := by
  obtain ⟨display, alt⟩ := Option.ne_none_iff_exists'.mp altDisplay
  have next : r.state.target.fallBack =
      { r.state.target with display := some display, altDisplay := none } := by
    rw [FrameTarget.fallBack, alt]
  let again : Session := { r.state with
    target := r.state.target.fallBack, onTerminal := r.state.target.fallBack.terminal
    resent := true }
  have onDisplay : again.target.terminal = false := by
    simp only [again, next]
    exact told.onDisplay
  have waits : again.target.noWait = false := by
    simp only [again, next]
    exact told.waits
  have works : (request c withoutTerminal items [] again).1 = .ok () :=
    request_works c items [] onDisplay told.reliable
  obtain ⟨idle, reliable, target, resent⟩ := request_ok works
  obtain ⟨r', done, still, state, -⟩ := told_act
    (f := (handler c withoutTerminal items).unsupported) (told_record told) works idle
    (reliable told.reliable) (target ▸ onDisplay) (target ▸ waits)
  rw [dispatch_refusal]
  refine ⟨r', done, still, ?_, ?_⟩
  · rw [state]
    change (request c withoutTerminal items [] again).2.1.target.altDisplay = none
    rw [target]
    simp only [again, next]
  · rw [state]
    exact resent

/-- The second refusal: there is no terminal to turn to, and nothing more is shown. -/
theorem told_second_refusal {n : Nat} (told : Told n r) (items : List Item)
    (altDisplay : r.state.target.altDisplay = none) (eval : c.eval = false) :
    ∃ e r', dispatch (handler c withoutTerminal items) refusal r = .error e r' ∧
      shown r' = shown r := by
  obtain ⟨e, failed⟩ := request_fails items [] (s := { r.state with
    target := r.state.target.fallBack, onTerminal := r.state.target.fallBack.terminal
    resent := true }) eval (by simp [FrameTarget.fallBack, altDisplay])
  rw [dispatch_refusal]
  refine ⟨e, _, act_of_error failed, ?_⟩
  rw [shown_acted]
  exact (told_record told).shown.trans told.shown.symm

/-! ## One read and two -/

theorem told_beginRead {n : Nat} (told : Told n r) : Told n (beginRead r) := by
  refine ⟨told.sink, ?_, told.idle, told.reliable, told.onDisplay, told.waits⟩
  change shown (r.record [.handler .reading]) = _
  rw [shown_record, told.shown]
  exact List.append_nil _

/-- A read of a single refusal leaves a request to be told of. -/
theorem told_feed_refusal {n : Nat} (told : Told n r) (fresh : r.pending = []) (items : List Item)
    (altDisplay : r.state.target.altDisplay ≠ none) :
    ∃ r', feed (handler c withoutTerminal items) (refusal ++ [Bytes.newline]) r = .ok () r' ∧
      Told n r' ∧ r'.pending = [] ∧ r'.state.target.altDisplay = none ∧
      r'.state.resent = true := by
  let arrived : ReplyReader Session SessionEvent :=
    { r with pending := refusal ++ [Bytes.newline] }
  have arrivedTold : Told n arrived := { told with }
  have lines : Lines.complete (refusal ++ [Bytes.newline]) = [refusal] := by decide
  have rest : Lines.tail (refusal ++ [Bytes.newline]) = [] := by decide
  obtain ⟨q, done, still, spent, resent⟩ :=
    told_first_refusal (c := c) arrivedTold items altDisplay
  let kept : ReplyReader Session SessionEvent := { q with pending := [] }
  have ready : kept.Steady := by
    change q.out.flushes = []
    rw [still.sink]
  have flushes : flushOut kept = .ok () (kept.record [.flushed]) := flushOut_of_steady ready
  rw [feed_apply, fresh, List.nil_append, lines, rest, forM_singleton]
  refine ⟨_, (bind_of_ok done _).trans flushes, ⟨still.sink, ?_, still.idle, still.reliable,
    still.onDisplay, still.waits⟩, rfl, spent, resent⟩
  rw [shown_record]
  exact (List.append_nil _).trans still.shown

/-- A read that brings the last refusal ends the session. -/
theorem told_feed_last {n : Nat} (told : Told n r) (fresh : r.pending = []) (items : List Item)
    (altDisplay : r.state.target.altDisplay = none) (eval : c.eval = false) :
    ∃ e r', feed (handler c withoutTerminal items) (refusal ++ [Bytes.newline]) r = .error e r' ∧
      shown r' = shown r := by
  let arrived : ReplyReader Session SessionEvent :=
    { r with pending := refusal ++ [Bytes.newline] }
  have arrivedTold : Told n arrived := { told with }
  have lines : Lines.complete (refusal ++ [Bytes.newline]) = [refusal] := by decide
  obtain ⟨e, q, failed, same⟩ := told_second_refusal arrivedTold items altDisplay eval
  rw [feed_apply, fresh, List.nil_append, lines, forM_singleton]
  exact ⟨e, q, bind_of_error failed _, same⟩

/-- A read that brings both refusals ends the session before it looks. -/
theorem told_feed_both {n : Nat} (told : Told n r) (fresh : r.pending = []) (items : List Item)
    (altDisplay : r.state.target.altDisplay ≠ none) (eval : c.eval = false) :
    ∃ e r', feed (handler c withoutTerminal items)
        (refusal ++ [Bytes.newline] ++ (refusal ++ [Bytes.newline])) r = .error e r' ∧
      shown r' = shown r := by
  let arrived : ReplyReader Session SessionEvent :=
    { r with pending := refusal ++ [Bytes.newline] ++ (refusal ++ [Bytes.newline]) }
  have arrivedTold : Told n arrived := { told with }
  have lines : Lines.complete (refusal ++ [Bytes.newline] ++ (refusal ++ [Bytes.newline])) =
      [refusal, refusal] := by decide
  obtain ⟨q, done, still, spent, -⟩ := told_first_refusal (c := c) arrivedTold items altDisplay
  obtain ⟨e, q', failed, same⟩ := told_second_refusal still items spent eval
  rw [feed_apply, fresh, List.nil_append, lines]
  refine ⟨e, q', bind_of_error ((bind_of_ok done _).trans ?_) _, ?_⟩
  · exact bind_of_error failed _
  · exact same.trans (still.shown.trans told.shown.symm)

/-- After a read that brought the first refusal, the user is told again. -/
theorem told_afterRead {n : Nat} (told : Told n r) (h : ReplyHandler Session SessionEvent)
    (eval : c.eval = false) (quiet : c.quiet = false) (resent : r.state.resent = true) :
    ∃ r', afterRead c h r = .ok () r' ∧ Told (n + 1) r' ∧
      r'.state.target = r.state.target ∧ r'.pending = r.pending := by
  let seen : ReplyReader Session SessionEvent :=
    { r with state := { r.state with resent := false } }
  have seenTold : Told n seen := { told with }
  obtain ⟨q, done, next, state, kept⟩ := told_showWaiting seenTold h eval quiet
  refine ⟨q, ?_, next, state ▸ rfl, kept⟩
  change (if r.state.resent then showWaiting c h else pure ()) seen = _
  rw [if_pos resent]
  exact done

/-- Up to its first read, a session has told the user once. It fails where its read loop
fails from there. -/
theorem converse_begins (waits : WaitsAgain c) (items : List Item) (connection : Connection)
    (told : Told 0 r) (fresh : r.pending = []) (altDisplay : r.state.target.altDisplay ≠ none) :
    ∃ q, Told 1 q ∧ q.pending = [] ∧ q.state.target.altDisplay ≠ none ∧
      ∀ e r', readAll c (handler c withoutTerminal items) connection.ending connection.reads q =
        .error e r' → converse c withoutTerminal items connection r = .error e r' := by
  have limited := setTimeout_of_lasting waits.timeout r
  obtain ⟨s, sent, once, target, kept⟩ := told_request (c := c) told items (Request.opening c)
  obtain ⟨q, shown, next, state, kept'⟩ :=
    told_showWaiting once (handler c withoutTerminal items) waits.eval waits.quiet
  refine ⟨q, next, kept'.trans (kept.trans fresh), ?_, fun e r' failed => ?_⟩
  · rw [state, target]
    exact altDisplay
  · unfold converse
    rw [bind_of_ok limited, bind_of_ok sent, bind_of_ok shown]
    exact bind_of_error failed _

theorem run_out_of_error {p : Platform} {input : Bytes} {connection : Connection} {out err : Sink}
    {e : ClientError}
    (failed : converse c p (Item.all c input) connection
      { suppressed := c.suppressOutput, out, err, state := start c connection } = .error e r) :
    (run c p input connection out err).out = shown r := by
  unfold run
  dsimp only
  rw [failed]
  rfl

/-- The connection on which a server refuses twice, with its replies in these portions. -/
def refusals (arriving : List Bytes) : Connection := { arriving }

theorem reads_of_short {arriving : List Bytes} (nonempty : [] ∉ arriving)
    (short : ∀ bytes ∈ arriving, bytes.length ≤ readSize) :
    (refusals arriving).reads = arriving := by
  unfold Connection.reads
  induction arriving with
  | nil => rfl
  | cons bytes rest ih =>
      have some_ : bytes ≠ [] := fun empty => nonempty (empty ▸ List.mem_cons_self)
      have others := ih (fun empty => nonempty (List.mem_cons_of_mem _ empty))
        fun bytes there => short bytes (List.mem_cons_of_mem _ there)
      change ((bytes :: rest).filter (· ≠ [])).flatMap _ = _
      rw [List.filter_cons_of_pos (by simpa using some_), List.flatMap_cons,
        Pieces.fill_of_le _ (short bytes List.mem_cons_self)]
      exact congrArg (bytes :: ·) others

theorem told_start (waits : WaitsAgain c) (arriving : List Bytes) :
    Told 0 { suppressed := c.suppressOutput, state := start c (refusals arriving) } where
  sink := rfl
  shown := rfl
  idle := rfl
  reliable := ⟨rfl, List.not_mem_nil, fun _ => List.not_mem_nil⟩
  onDisplay := waits.terminal
  waits := waits.noWait

/-- Both refusals in one read: the user is told once. -/
theorem out_of_one_read (waits : WaitsAgain c) :
    (run c withoutTerminal []
      (refusals [refusal ++ [Bytes.newline] ++ (refusal ++ [Bytes.newline])]) {} {}).out =
        Bytes.ofText waitingMessage := by
  obtain ⟨q, told, fresh, altDisplay, begun⟩ := converse_begins waits (Item.all c [])
    (refusals [refusal ++ [Bytes.newline] ++ (refusal ++ [Bytes.newline])])
    (told_start waits _) rfl waits.altDisplay
  rw [reads_of_short (by decide) (by decide)] at begun
  obtain ⟨e, r, failed, same⟩ := told_feed_both (told_beginRead told) fresh (Item.all c [])
    altDisplay waits.eval
  have read := (readAll_cons (c := c) (handler c withoutTerminal (Item.all c [])) told.idle _
    []).trans (bind_of_error failed _)
  rw [run_out_of_error (begun e r read), same, (told_beginRead told).shown]
  rfl

/-- One refusal in each read: the user is told twice. -/
theorem out_of_two_reads (waits : WaitsAgain c) :
    (run c withoutTerminal []
      (refusals [refusal ++ [Bytes.newline], refusal ++ [Bytes.newline]]) {} {}).out =
        Bytes.ofText waitingMessage ++ Bytes.ofText waitingMessage := by
  obtain ⟨q, told, fresh, altDisplay, begun⟩ := converse_begins waits (Item.all c [])
    (refusals [refusal ++ [Bytes.newline], refusal ++ [Bytes.newline]])
    (told_start waits _) rfl waits.altDisplay
  rw [reads_of_short (by decide) (by decide)] at begun
  obtain ⟨s, fed, still, complete, spent, resent⟩ := told_feed_refusal (c := c)
    (told_beginRead told) fresh (Item.all c []) altDisplay
  obtain ⟨t, looked, twice, target, kept⟩ := told_afterRead still
    (handler c withoutTerminal (Item.all c [])) waits.eval waits.quiet resent
  obtain ⟨e, r, failed, same⟩ := told_feed_last (told_beginRead twice) (kept.trans complete)
    (Item.all c []) (target ▸ spent) waits.eval
  have last := (readAll_cons (c := c) (handler c withoutTerminal (Item.all c [])) twice.idle _
    []).trans (bind_of_error failed _)
  have read := (readAll_cons (c := c) (handler c withoutTerminal (Item.all c [])) told.idle _
    [refusal ++ [Bytes.newline]]).trans
      ((bind_of_ok fed _).trans ((bind_of_ok looked _).trans last))
  rw [run_out_of_error (begun e r read), same, (told_beginRead twice).shown]
  rfl

/-- For any configuration that may tell the user again, there are two ways of cutting one
reply stream that come to different output. -/
theorem not_agrees_of_waitsAgain (waits : WaitsAgain c) :
    ¬ (run c withoutTerminal []
        (refusals [refusal ++ [Bytes.newline] ++ (refusal ++ [Bytes.newline])]) {} {}).Agrees
      (run c withoutTerminal []
        (refusals [refusal ++ [Bytes.newline], refusal ++ [Bytes.newline]]) {} {}) := by
  intro agrees
  have same := agrees.out
  rw [out_of_one_read waits, out_of_two_reads waits] at same
  exact absurd same (by decide)

/-- A client that asks for a new frame on one display and could use another. -/
def twoDisplays : Config where
  program := "edclient"
  noWait := false
  quiet := false
  suppressOutput := false
  eval := false
  createFrame := true
  terminal := false
  display := some ":9"
  altDisplay := some ":8"
  parentId := none
  frameParameters := none
  tramp := none
  socketName := none
  serverFile := none
  alternateEditor := none
  timeout := none
  directory := Bytes.ofText "/w"
  items := [Bytes.ofText "f"]
  env := {}

/-- The message is shown again if the server's refusals arrive one at a time, and is not if
they arrive together. -/
theorem waitingMessage_depends_on_reads :
    let line := refusal ++ [Bytes.newline]
    let together := run twoDisplays withoutTerminal [] (refusals [line ++ line]) {} {}
    let apart := run twoDisplays withoutTerminal [] (refusals [line, line]) {} {}
    [line ++ line].flatten = [line, line].flatten ∧
      together.out = Bytes.ofText "Waiting for Emacs..." ∧
      apart.out = Bytes.ofText "Waiting for Emacs..." ++ Bytes.ofText "Waiting for Emacs..." ∧
      ¬ together.Agrees apart := by
  have waits : WaitsAgain twoDisplays := ⟨nofun, nofun, rfl, rfl, rfl, rfl⟩
  exact ⟨by simp, out_of_one_read waits, out_of_two_reads waits, not_agrees_of_waitsAgain waits⟩

/-- The reads do not matter exactly for the configurations that never tell the user again
that the client waits. The server's bytes may be cut anywhere, the sinks may fail, except that
the flushes of standard output work, of which one comes with each read; and the socket may
take a few bytes at a time and be interrupted. It may also fail, unless signals arrive while
the process is stopped, which are passed on without regard to failures. -/
theorem runs_agree_iff (c : Config) :
    (∀ (p : Platform) (input : Bytes) (buffer : SendBuffer) (arriving arriving' : List Bytes)
      (out err : Sink), arriving.flatten = arriving'.flatten → out.Steady →
        (buffer.writer.Reliable ∨ p.whileStopped = []) →
          (run c p input { buffer, arriving } out err).Agrees
            (run c p input { buffer, arriving := arriving' } out err)) ↔ ¬ WaitsAgain c := by
  constructor
  · intro agree waits
    refine not_agrees_of_waitsAgain waits (agree withoutTerminal [] {} _ _ {} {} ?_ rfl (.inr rfl))
    simp
  · intro never p input buffer arriving arriving' out err stream flushes reliable
    exact run_agrees (settled_of_not_waitsAgain never) input flushes err rfl rfl rfl stream
      reliable

end EditorClient.Session
