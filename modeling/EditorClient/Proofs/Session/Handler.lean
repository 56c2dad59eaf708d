/-
# What replies do to a session

Two sessions that differ only in how often their buffers were flushed are changed
by a reply in the same way. This is half of why the reads do not matter; the other
half is that between reads nothing is pending, so that a flush writes nothing. A
session in which this holds, and in which nothing more is to be said of requests
that were sent again, is `Steady`.
-/

import EditorClient.Proofs.Reply.Invariants
import EditorClient.Proofs.Session.Bridge
import EditorClient.Session

namespace EditorClient.Session

open ReplyReader

/-- Whether an event is more than one of those that come with every read. -/
def isShown : Event SessionEvent → Bool
  | .flushed => false
  | .handler .reading => false
  | _ => true

/-- Sessions that differ at most in how often they were flushed, and in what was seen
of a request that was sent again. -/
structure SameButReads (s s' : Session) : Prop where
  target : s.target = s'.target
  buffer : s.buffer.SameButFlushes s'.buffer
  pid : s.pid = s'.pid
  onTerminal : s.onTerminal = s'.onTerminal
  asked : s.asked = s'.asked
  bridged : s.bridged = s'.bridged
  closed : s.closed = s'.closed

variable {c : Config} {p : Platform} {items : List Item} {s s' : Session}

theorem SameButReads.refl (s : Session) : SameButReads s s :=
  ⟨rfl, .refl s.buffer, rfl, rfl, rfl, rfl, rfl⟩

theorem SameButReads.of_common {other : Session} (first : SameButReads s other)
    (second : SameButReads s' other) : SameButReads s s' where
  target := first.target.trans second.target.symm
  buffer := first.buffer.of_common second.buffer
  pid := first.pid.trans second.pid.symm
  onTerminal := first.onTerminal.trans second.onTerminal.symm
  asked := first.asked.trans second.asked.symm
  bridged := first.bridged.trans second.bridged.symm
  closed := first.closed.trans second.closed.symm

/-! ## What replies do to sessions that are the same -/

/-- A step of a session does the same to both. -/
def Agrees (f : Session → Except ClientError Unit × Session × List SessionEvent)
    (s s' : Session) : Prop :=
  (f s).1 = (f s').1 ∧ SameButReads (f s).2.1 (f s').2.1 ∧ (f s).2.2 = (f s').2.2

/-- The session after the terminal was asked for, if a request may offer it. -/
def asking (c : Config) (s : Session) : Session :=
  if c.wantsTerminal then { s with asked := s.asked + 1 } else s

theorem asking_eq (c : Config) (s : Session) :
    asking c s = { s with asked := (asking c s).asked } := by
  unfold asking
  split <;> rfl

/-- A request in its three outcomes: it could not be built, not be sent, or was sent. -/
theorem request_eq (opening : Request) : request c p items opening s =
    let events := if c.wantsTerminal then [.terminal (p.terminal s.asked).isOk] else []
    match Request.body c s.target items (p.terminal s.asked) with
    | .error error => (.error error, asking c s, events)
    | .ok body =>
      match SendBuffer.send (opening ++ body).encode s.buffer with
      | .error error buffer =>
        (.error (.io "failed to send request" error), { asking c s with buffer }, events)
      | .ok _ buffer =>
        if body.offersTerminal then
          (.ok (), { asking c s with buffer, bridged := true },
            events ++ [.bridge (knownPid s.pid) s.onTerminal])
        else (.ok (), { asking c s with buffer }, events) := by
  unfold request asking
  cases c.wantsTerminal <;> rfl

theorem request_agrees (opening : Request) (same : SameButReads s s') :
    Agrees (request c p items opening) s s' := by
  have counted : SameButReads (asking c s) (asking c s') := by
    simp only [asking]
    split
    · exact { same with asked := congrArg (· + 1) same.asked }
    · exact same
  rw [Agrees, request_eq, request_eq, ← same.asked, ← same.target, ← same.pid,
    ← same.onTerminal]
  dsimp only
  cases Request.body c s.target items (p.terminal s.asked) with
  | error e => exact ⟨rfl, counted, rfl⟩
  | ok body =>
      have sent := SendBuffer.send_lockstep (opening ++ body).encode same.buffer
      dsimp only
      generalize SendBuffer.send (opening ++ body).encode s.buffer = result at sent ⊢
      generalize SendBuffer.send (opening ++ body).encode s'.buffer = result' at sent ⊢
      cases sent with
      | error buffer => exact ⟨rfl, { counted with buffer }, rfl⟩
      | ok buffer =>
          dsimp only
          split
          · exact ⟨rfl, { counted with buffer, bridged := rfl }, rfl⟩
          · exact ⟨rfl, { counted with buffer }, rfl⟩

/-- A session that has moved on to the next target. -/
def fallen (s : Session) : Session :=
  { s with target := s.target.fallBack, onTerminal := s.target.fallBack.terminal, resent := true }

theorem fallBack_agrees (same : SameButReads s s') : Agrees (fallBack c p items) s s' := by
  simp only [Agrees, fallBack, ← same.target]
  exact request_agrees [] { same with target := rfl, onTerminal := rfl }

theorem signal_agrees (number : Signal) (foreground : Foreground) (same : SameButReads s s') :
    SameButReads (s.signal number foreground).1 (s'.signal number foreground).1 ∧
      (s.signal number foreground).2 = (s'.signal number foreground).2 := by
  have handled := Bridge.handle_same
    { foreground, onTerminal := s.onTerminal, pid := s.pid } number same.buffer
  simp only [signal, ← same.onTerminal, ← same.pid, handled.result, handled.calls]
  exact ⟨⟨same.target, handled.buffer, rfl, rfl, same.asked, same.bridged, same.closed⟩, trivial⟩

theorem signals_agree (list : List (Signal × Foreground)) (same : SameButReads s s') :
    SameButReads (signals list s).1 (signals list s').1 ∧
      (signals list s).2 = (signals list s').2 := by
  induction list generalizing s s' with
  | nil => exact ⟨same, rfl⟩
  | cons first rest ih =>
      obtain ⟨number, foreground⟩ := first
      obtain ⟨next, reported⟩ := signal_agrees number foreground same
      obtain ⟨final, others⟩ := ih next
      rw [signals, signals, reported, others]
      exact ⟨final, rfl⟩

/-- Signals change the send buffer, and nothing else of a session. -/
theorem signals_eq (list : List (Signal × Foreground)) (s : Session) :
    (signals list s).1 = { s with buffer := (signals list s).1.buffer } := by
  induction list generalizing s with
  | nil => rfl
  | cons first rest ih => exact ih (s.signal first.1 first.2).1

theorem suspend_agrees (same : SameButReads s s') :
    SameButReads (suspend p s).1 (suspend p s').1 ∧ (suspend p s).2 = (suspend p s').2 := by
  simp only [suspend, ← same.bridged]
  split
  · exact signals_agree p.whileStopped same
  · exact ⟨same, rfl⟩

/-- Replies do the same to sessions that are the same. -/
theorem handler_respects (c : Config) (p : Platform) (items : List Item) :
    Respects (handler c p items) SameButReads where
  serverPid _ _ _ same := { same with pid := rfl }
  unsupported _ _ same := fallBack_agrees same
  suspend _ _ same := suspend_agrees same

theorem close_agrees (same : SameButReads s s') : SameButReads s.close s'.close := by
  simp only [close, ← same.closed]
  split
  · exact same
  · have flushed := SendBuffer.flush_lockstep same.buffer
    simp only [flush]
    generalize SendBuffer.flush s.buffer = result at flushed ⊢
    generalize SendBuffer.flush s'.buffer = result' at flushed ⊢
    cases flushed with
    | ok buffer => exact { same with buffer, closed := rfl }
    | error buffer => exact { same with buffer, closed := rfl }

/-! ## Refusals -/

/-- Whether a line says that the server cannot use the window system. -/
def isRefusal (line : Bytes) : Bool := Reply.parse line = .windowSystemUnsupported

theorem ne_nil_of_isRefusal {line : Bytes} (refuses : isRefusal line = true) : line ≠ [] := by
  rintro rfl
  nomatch refuses

/-- A refusal goes to the handler, and is answered by nothing else. -/
theorem dispatch_of_isRefusal (h : ReplyHandler Session SessionEvent) {line : Bytes}
    (refuses : isRefusal line = true) (r : ReplyReader Session SessionEvent) :
    dispatch h line r = act h.unsupported (r.record [.unsupported]) := by
  have parsed : Reply.parse line = .windowSystemUnsupported := by simpa [isRefusal] using refuses
  rw [dispatch_of_ne_nil h (ne_nil_of_isRefusal refuses), parsed]
  show [Action.unsupported].forM (perform h) r = _
  rw [forM_singleton]
  rfl

/-! ## What a session keeps -/

/-- No request for this target that is sent again has a reason to tell the user that
the client waits: there is no other display to turn to, or there is nothing to tell. -/
def Settled (c : Config) (t : FrameTarget) : Prop :=
  t.altDisplay = none ∨ c.eval ∨ c.quiet ∨ t.terminal ∨ t.noWait

theorem settled_fallBack (c : Config) (t : FrameTarget) : Settled c t.fallBack := by
  rw [FrameTarget.fallBack]
  cases t.altDisplay with
  | none => exact .inr (.inr (.inr (.inl rfl)))
  | some display => exact .inl rfl

theorem not_showsWaiting_fallBack {t : FrameTarget} (settled : Settled c t)
    (target : s.target = t.fallBack) : showsWaiting c s = false := by
  rw [showsWaiting, target, FrameTarget.fallBack]
  cases alt : t.altDisplay with
  | none => simp
  | some display =>
      rcases settled with none | eval | quiet | terminal | noWait
      · rw [alt] at none
        nomatch none
      · simp [eval]
      · simp [quiet]
      · simp [terminal]
      · simp [noWait]

/-- Between reads nothing is pending, and a request that was sent again is not to be
told of. -/
structure Steady (c : Config) (p : Platform) (s : Session) : Prop where
  idle : s.buffer.pending = []
  reliable : s.buffer.writer.Reliable ∨ p.whileStopped = []
  settled : Settled c s.target
  silent : s.resent = true → showsWaiting c s = false

theorem encode_getLast (r : Request) : r.encode.getLast? = some Bytes.newline :=
  List.getLast?_concat

/-- A request that was sent leaves nothing pending, and changes neither the target nor
what is known of requests that were sent again. -/
theorem request_ok {opening : Request} (done : (request c p items opening s).1 = .ok ()) :
    (request c p items opening s).2.1.buffer.pending = [] ∧
      (s.buffer.writer.Reliable → (request c p items opening s).2.1.buffer.writer.Reliable) ∧
      (request c p items opening s).2.1.target = s.target ∧
      (request c p items opening s).2.1.resent = s.resent := by
  rw [request_eq] at done ⊢
  dsimp only at done ⊢
  rw [asking_eq]
  cases built : Request.body c s.target items (p.terminal s.asked) with
  | error e =>
      rw [built] at done
      nomatch done
  | ok body =>
      rw [built] at done
      dsimp only at done ⊢
      cases sent : SendBuffer.send (opening ++ body).encode s.buffer with
      | error e final =>
          rw [sent] at done
          nomatch done
      | ok u final =>
          have idle := (SendBuffer.send_ok sent).2 (encode_getLast _)
          have still (reliable : s.buffer.writer.Reliable) : final.writer.Reliable := by
            obtain ⟨b', sent', reliable'⟩ :=
              SendBuffer.send_reliable (opening ++ body).encode reliable
            rw [sent] at sent'
            cases sent'
            exact reliable'
          dsimp only
          split
          · exact ⟨idle, still, rfl, rfl⟩
          · exact ⟨idle, still, rfl, rfl⟩

/-- From here on the session is steady. -/
theorem steady_of_request {opening : Request}
    (done : (request c p items opening s).1 = .ok ())
    (reliable : s.buffer.writer.Reliable ∨ p.whileStopped = []) (settled : Settled c s.target)
    (silent : s.resent = true → showsWaiting c s = false) :
    Steady c p (request c p items opening s).2.1 := by
  obtain ⟨idle, still, target, resent⟩ := request_ok done
  refine ⟨idle, reliable.imp_left still, target ▸ settled, fun again => ?_⟩
  rw [resent] at again
  rw [showsWaiting, target]
  exact silent again

theorem steady_fallBack (steady : Steady c p s) (done : (fallBack c p items s).1 = .ok ()) :
    Steady c p (fallBack c p items s).2.1 :=
  steady_of_request done steady.reliable (settled_fallBack c s.target)
    fun _ => not_showsWaiting_fallBack steady.settled rfl

theorem steady_signals (list : List (Signal × Foreground)) (steady : Steady c p s)
    (reliable : s.buffer.writer.Reliable) : Steady c p (signals list s).1 := by
  induction list generalizing s with
  | nil => exact steady
  | cons first rest ih =>
      obtain ⟨number, foreground⟩ := first
      obtain ⟨idle, still⟩ := Bridge.handle_reliable
        { foreground, onTerminal := s.onTerminal, pid := s.pid } number steady.idle reliable
      have next : Steady c p (s.signal number foreground).1 :=
        ⟨idle, .inl still, steady.settled, steady.silent⟩
      exact ih next still

theorem steady_suspend (steady : Steady c p s) : Steady c p (suspend p s).1 := by
  rw [suspend]
  split
  · rcases steady.reliable with reliable | none
    · exact steady_signals p.whileStopped steady reliable
    · rw [none]
      exact steady
  · exact steady

theorem handler_keeps (c : Config) (p : Platform) (items : List Item) :
    HandlerKeeps (handler c p items) (Steady c p) where
  serverPid _ _ steady := { steady with }
  unsupported _ steady done := steady_fallBack steady done
  suspend _ steady := steady_suspend steady

end EditorClient.Session
