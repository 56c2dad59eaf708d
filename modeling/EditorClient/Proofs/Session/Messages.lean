/-
# The lines of a session

What a session sends are its requests, one after the other, and between them the lines
with which the bridge tells the server that the client stops or goes on. The first request
has the number 0, and each refusal of the server brings the next.

Of a session that has `Sent` so many requests nothing else has gone to the server, but for
what the connection began with, and each of these requests could be built. The bridge adds
lines of its own (`Adds`), and a request that is due adds itself, if it can be built.
-/

import EditorClient.Proofs.Request.Targets
import EditorClient.Proofs.Session.Handler

namespace EditorClient.Session

open ReplyReader

/-! ## Messages -/

/-- A line that a session sends. -/
inductive Message
  /-- The request with this number, counted from 0. -/
  | request (number : Nat)
  /-- The line of the bridge after the process was continued. -/
  | resume
  /-- The line of the bridge before the process stops. -/
  | suspend
  deriving DecidableEq, Repr

/-- Whether a message is a request, and no line of the bridge. -/
def Message.isRequest : Message → Bool
  | .request _ => true
  | _ => false

/-- How often the server has refused. -/
def timesRefused (events : List (Event SessionEvent)) : Nat := events.count .unsupported

theorem timesRefused_append (events more : List (Event SessionEvent)) :
    timesRefused (events ++ more) = timesRefused events + timesRefused more :=
  List.count_append

/-- What a session reports beyond its output is no refusal. -/
@[simp]
theorem timesRefused_reports (reports : List SessionEvent) :
    timesRefused (reports.map .handler) = 0 :=
  List.count_eq_zero.mpr (by simp)

/-! ## Requests -/

/-- The directives with which a request begins: only the first has an opening. -/
def openingOf (c : Config) (number : Nat) : Request :=
  if number = 0 then Request.opening c else []

/-- The line of the request with this number: for the target that falling back so many times
leads to, and the terminal as it is then, if it can be built. -/
def requestLine (c : Config) (p : Platform) (items : List Item) (number : Nat) :
    Except ClientError Bytes :=
  (Request.body c ((FrameTarget.ofConfig c).fallBackTimes number) items
    (p.terminal number)).map fun body => (openingOf c number ++ body).encode

/-- The bytes of a message. A request that cannot be built has none. -/
def Message.bytes (c : Config) (p : Platform) (items : List Item) : Message → Bytes
  | .request number => (requestLine c p items number).toOption.getD []
  | .resume => resumeLine
  | .suspend => suspendLine

variable {c : Config} {p : Platform} {items : List Item} {s : Session} {number : Nat}

/-- A request that does not concern a terminal is the same whatever the terminal is. -/
theorem body_of_not_wantsTerminal (other : c.wantsTerminal = false) (t : FrameTarget)
    (terminal terminal' : Except TerminalError Terminal) :
    Request.body c t items terminal = Request.body c t items terminal' := by
  simp only [Request.body, Request.terminalPart, other]
  rfl

/-- A request that cannot be built is one for our terminal, and there is none. -/
theorem requestLine_error {e : ClientError} (failed : requestLine c p items number = .error e) :
    ∃ reason, p.terminal number = .error reason ∧
      ((FrameTarget.ofConfig c).fallBackTimes number).terminal = true ∧
      e = .terminal reason.message := by
  rw [requestLine, Request.body] at failed
  unfold Request.terminalPart at failed
  split at failed
  case isFalse => nomatch failed
  case isTrue =>
      split at failed
      case h_1 => nomatch failed
      case h_2 reason none =>
          split at failed
          case isFalse => nomatch failed
          case isTrue onTerminal =>
              cases failed
              exact ⟨reason, none, onTerminal, rfl⟩

/-- Messages that are these many requests, in order, and otherwise lines of the bridge. -/
def Requests (requests : Nat) (messages : List Message) : Prop :=
  messages.filter Message.isRequest = (List.range requests).map .request

variable {messages more : List Message}

theorem Requests.concat (before : Requests number messages) :
    Requests (number + 1) (messages ++ [.request number]) := by
  rw [Requests, List.filter_append, before, List.range_succ, List.map_append]
  rfl

theorem Requests.append (before : Requests number messages)
    (others : ∀ message ∈ more, message.isRequest = false) :
    Requests number (messages ++ more) := by
  have none : more.filter Message.isRequest = [] := by
    rw [List.filter_eq_nil_iff]
    intro message there
    rw [others message there]
    exact Bool.noConfusion
  rw [Requests, List.filter_append, none, List.append_nil, before]

/-- A session that has sent so many requests, after what the connection began with and among
lines of the bridge. -/
structure Sent (c : Config) (p : Platform) (items : List Item) (lead : Bytes) (requests : Nat)
    (s : Session) : Prop where
  stream : ∃ messages, s.buffer.stream = lead ++ messages.flatMap (Message.bytes c p items) ∧
    Requests requests messages
  reliable : s.buffer.writer.Reliable
  /-- Nothing is pending when the connection has been closed. -/
  flushed : s.closed = true → s.buffer.pending = []
  built : ∀ number < requests, ∃ line, requestLine c p items number = .ok line

/-- A session that has sent so many requests and fallen back so many times. -/
structure Sending (c : Config) (p : Platform) (items : List Item) (lead : Bytes)
    (requests falls : Nat) (s : Session) : Prop extends Sent c p items lead requests s where
  target : s.target = (FrameTarget.ofConfig c).fallBackTimes falls
  asked : c.wantsTerminal → s.asked = requests

variable {lead : Bytes} {requests falls : Nat} {s' s'' : Session}

/-- Closing writes what is pending. -/
theorem Sent.taken_close (sent : Sent c p items lead requests s) :
    s.close.buffer.taken = s.buffer.stream := by
  rw [close]
  split
  case isTrue closed => rw [SendBuffer.stream, sent.flushed closed, List.append_nil]
  case isFalse =>
      obtain ⟨final, flushed, -⟩ := SendBuffer.flush_reliable sent.reliable
      obtain ⟨stream, nothing⟩ := SendBuffer.flush_ok flushed
      rw [flush, flushed, ← stream, SendBuffer.stream, nothing, List.append_nil]

/-! ## The bridge -/

/-- A session that has sent lines of the bridge, if anything, and changed in nothing else that
matters for what it sends. -/
structure Adds (c : Config) (p : Platform) (items : List Item) (s s' : Session) : Prop where
  stream : ∃ lines : List Message,
    s'.buffer.stream = s.buffer.stream ++ lines.flatMap (Message.bytes c p items) ∧
      ∀ line ∈ lines, line.isRequest = false
  reliable : s'.buffer.writer.Reliable
  flushed : (s.closed = true → s.buffer.pending = []) → s'.closed = true → s'.buffer.pending = []
  target : s'.target = s.target
  asked : s'.asked = s.asked

namespace Adds

/-- The send buffer has not been touched. -/
theorem same (reliable : s.buffer.writer.Reliable) (buffer : s'.buffer = s.buffer)
    (closed : s'.closed = s.closed) (target : s'.target = s.target) (asked : s'.asked = s.asked) :
    Adds c p items s s' where
  stream := ⟨[], buffer ▸ (List.append_nil _).symm, List.forall_mem_nil _⟩
  reliable := buffer ▸ reliable
  flushed idle := by rwa [buffer, closed]
  target := target
  asked := asked

theorem refl (reliable : s.buffer.writer.Reliable) : Adds c p items s s :=
  .same reliable rfl rfl rfl rfl

theorem trans (first : Adds c p items s s') (later : Adds c p items s' s'') :
    Adds c p items s s'' where
  stream := by
    obtain ⟨lines, grown, others⟩ := first.stream
    obtain ⟨lines', grown', others'⟩ := later.stream
    refine ⟨lines ++ lines', ?_, List.forall_mem_append.mpr ⟨others, others'⟩⟩
    rw [grown', grown, List.flatMap_append, List.append_assoc]
  reliable := later.reliable
  flushed := later.flushed ∘ first.flushed
  target := later.target.trans first.target
  asked := later.asked.trans first.asked

end Adds

/-- What the bridge does about a signal adds one of its lines to the stream, or nothing, also
where the system does not do as it is asked. -/
theorem adds_handle (b : Bridge) (signal : Signal) (reliable : s.buffer.writer.Reliable) :
    Adds c p items s { s with buffer := (b.handle signal s.buffer).buffer } := by
  have idle : (s.closed = true → s.buffer.pending = []) → s.closed = true →
      (b.handle signal s.buffer).buffer.pending = [] := fun flushed closed =>
    (b.handle_reliable signal (flushed closed) reliable).1
  have untouched (same : (b.handle signal s.buffer).buffer = s.buffer) :
      Adds c p items s { s with buffer := (b.handle signal s.buffer).buffer } :=
    .same reliable same rfl rfl rfl
  have sends (line : Message) (other : line.isRequest = false)
      (sent : (b.handle signal s.buffer).buffer.stream =
        s.buffer.stream ++ Message.bytes c p items line)
      (still : (b.handle signal s.buffer).buffer.writer.Reliable) :
      Adds c p items s { s with buffer := (b.handle signal s.buffer).buffer } :=
    ⟨⟨[line], by rwa [List.flatMap_singleton], List.forall_mem_singleton.mpr other⟩, still, idle,
      rfl, rfl⟩
  cases meaning : intent signal b.foreground b.onTerminal with
  | ignore => exact untouched (by simp only [Bridge.handle, meaning])
  | stopGroup => exact untouched (by simp only [Bridge.handle, meaning, b.callOnly_eq _ s.buffer])
  | forward number =>
      refine untouched ?_
      simp only [Bridge.handle, meaning]
      split
      · rfl
      · rw [b.callOnly_eq _ s.buffer]
  | resume =>
      obtain ⟨final, sent, still⟩ := SendBuffer.send_reliable resumeLine reliable
      have buffer : (b.handle signal s.buffer).buffer = final := by
        simp only [Bridge.handle, meaning, sent]
      exact sends .resume rfl (buffer ▸ (SendBuffer.send_ok sent).1) (buffer ▸ still)
  | suspend number =>
      obtain ⟨final, sent, still⟩ := SendBuffer.send_reliable suspendLine reliable
      have buffer : (b.handle signal s.buffer).buffer = final := by
        simp only [Bridge.handle, meaning, sent, b.callOnly_eq _ final]
      exact sends .suspend rfl (buffer ▸ (SendBuffer.send_ok sent).1) (buffer ▸ still)

theorem adds_signals (list : List (Signal × Foreground)) (reliable : s.buffer.writer.Reliable) :
    Adds c p items s (signals list s).1 := by
  induction list generalizing s with
  | nil => exact .refl reliable
  | cons first rest ih =>
      obtain ⟨signal, foreground⟩ := first
      have here : Adds c p items s (s.signal signal foreground).1 := adds_handle _ signal reliable
      exact here.trans (ih here.reliable)

theorem adds_suspend (reliable : s.buffer.writer.Reliable) :
    Adds c p items s (suspend p s).1 := by
  rw [suspend]
  split
  · exact adds_signals p.whileStopped reliable
  · exact .refl reliable

/-- Writing what is pending adds nothing to the stream. -/
theorem adds_flush (reliable : s.buffer.writer.Reliable) : Adds c p items s s.flush.2 := by
  obtain ⟨final, flushed, still⟩ := SendBuffer.flush_reliable reliable
  obtain ⟨stream, nothing⟩ := SendBuffer.flush_ok flushed
  rw [flush, flushed]
  exact ⟨⟨[], stream.trans (List.append_nil _).symm, List.forall_mem_nil _⟩, still,
    fun _ _ => nothing, rfl, rfl⟩

theorem adds_close (reliable : s.buffer.writer.Reliable) : Adds c p items s s.close := by
  rw [close]
  split
  · exact .refl reliable
  · obtain ⟨final, flushed, -⟩ := SendBuffer.flush_reliable reliable
    have wrote : Adds c p items s s.flush.2 := adds_flush reliable
    have nothing : s.flush.2.buffer.pending = [] := by
      rw [flush, flushed]
      exact (SendBuffer.flush_ok flushed).2
    exact { wrote with flushed := fun _ _ => nothing }

theorem Sent.adds (sent : Sent c p items lead requests s) (adds : Adds c p items s s') :
    Sent c p items lead requests s' where
  stream := by
    obtain ⟨messages, stream, counted⟩ := sent.stream
    obtain ⟨lines, grown, others⟩ := adds.stream
    refine ⟨messages ++ lines, ?_, counted.append others⟩
    rw [grown, stream, List.flatMap_append, List.append_assoc]
  reliable := adds.reliable
  flushed := adds.flushed sent.flushed
  built := sent.built

theorem Sending.adds (sending : Sending c p items lead requests falls s)
    (adds : Adds c p items s s') : Sending c p items lead requests falls s' where
  toSent := sending.toSent.adds adds
  target := adds.target.trans sending.target
  asked wants := adds.asked.trans (sending.asked wants)

/-! ## The request that is due -/

theorem body_of_sending (sending : Sending c p items lead requests requests s) :
    Request.body c s.target items (p.terminal s.asked) =
      Request.body c ((FrameTarget.ofConfig c).fallBackTimes requests) items
        (p.terminal requests) := by
  rw [sending.target]
  cases wants : c.wantsTerminal with
  | true => rw [sending.asked wants]
  | false => exact body_of_not_wantsTerminal wants _ _ _

/-- The request that is due is sent, if it can be built. If not, nothing is sent. -/
theorem request_sends (sending : Sending c p items lead requests requests s) :
    let done := request c p items (openingOf c requests) s
    (∀ line, requestLine c p items requests = .ok line →
      done.1 = .ok () ∧ Sending c p items lead (requests + 1) requests done.2.1) ∧
    ∀ e, requestLine c p items requests = .error e →
      done.1 = .error e ∧ Sent c p items lead requests done.2.1 := by
  have counted (wants : c.wantsTerminal = true) : (asking c s).asked = requests + 1 := by
    rw [asking, if_pos wants, sending.asked wants]
  rw [request_eq, asking_eq]
  dsimp only
  rw [requestLine, ← body_of_sending sending]
  cases made : Request.body c s.target items (p.terminal s.asked) with
  | error e =>
      refine ⟨fun _ other => (by cases other), ?_⟩
      rintro _ ⟨⟩
      exact ⟨rfl, sending.stream, sending.reliable, sending.flushed, sending.built⟩
  | ok body =>
      refine ⟨?_, fun _ other => (by cases other)⟩
      rintro _ ⟨⟩
      have line : requestLine c p items requests = .ok (openingOf c requests ++ body).encode := by
        rw [requestLine, ← body_of_sending sending, made]
        rfl
      obtain ⟨final, sent, reliable⟩ :=
        SendBuffer.send_reliable (openingOf c requests ++ body).encode sending.reliable
      obtain ⟨grown, emptied⟩ := SendBuffer.send_ok sent
      obtain ⟨messages, stream, before⟩ := sending.stream
      have some_ : Message.bytes c p items (.request requests) =
          (openingOf c requests ++ body).encode := by
        rw [Message.bytes, line]
        rfl
      have next : Sent c p items lead (requests + 1)
          { s with asked := (asking c s).asked, buffer := final } := by
        refine ⟨⟨_, ?_, before.concat⟩, reliable, fun _ => emptied (encode_getLast _), ?_⟩
        · rw [List.flatMap_append, List.flatMap_singleton, some_, ← List.append_assoc, ← stream]
          exact grown
        · intro number upTo
          rcases Nat.lt_succ_iff_lt_or_eq.mp upTo with below | rfl
          · exact sending.built number below
          · exact ⟨_, line⟩
      have sends : Sending c p items lead (requests + 1) requests
          { s with asked := (asking c s).asked, buffer := final } :=
        ⟨next, sending.target, counted⟩
      dsimp only
      rw [sent]
      dsimp only
      split
      · exact ⟨rfl, ⟨⟨next.stream, next.reliable, next.flushed, next.built⟩, sends.target,
          sends.asked⟩⟩
      · exact ⟨rfl, sends⟩

/-- The first request is due at the start. -/
theorem sending_start (reliable : s.buffer.writer.Reliable) (stream : s.buffer.stream = lead)
    (target : s.target = .ofConfig c) (asked : s.asked = 0) (isOpen : s.closed = false) :
    Sending c p items lead 0 0 s where
  stream := ⟨[], stream.trans (List.append_nil _).symm, rfl⟩
  reliable := reliable
  flushed closed := by
    rw [isOpen] at closed
    nomatch closed
  built _ below := absurd below (Nat.not_lt_zero _)
  target := target
  asked _ := asked

end EditorClient.Session
