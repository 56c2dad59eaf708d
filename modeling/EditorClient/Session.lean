/-
# Sessions

A session sends one request over an open connection and reads replies until the
server closes it. When the server cannot use the window system, the request is
sent again for another target, without its opening. Each time a request that
offers our terminal has been sent, the bridge for signals is started; it shares
the send buffer, the server's process number and the place of the frame with the
session.

Before every read, all that is pending for the server is written. A read that
fails ends the session, but what had arrived before is still handled, also the
line that the server did not finish; one that takes too long ends it at once. A
server that has dropped the connection takes nothing any more, so a request that
such a last line causes cannot be sent. A session that was read to its end closes
its connection; any other leaves it to its caller. Closing writes what is pending.
-/

import EditorClient.JobControl
import EditorClient.Reply.Reader
import EditorClient.Request.Build

namespace EditorClient

/-- How the bytes of the server come to an end. -/
inductive Ending
  /-- The server closes the connection. -/
  | closed
  /-- The next read fails, and the connection stays open. -/
  | failed (error : IoError)
  /-- The server drops the connection: the next read fails, and then every write. -/
  | dropped (reading writing : IoError)
  deriving DecidableEq, Repr

/-- An open connection: what is on its way to the server, and what the server
will send, in the portions in which it arrives. -/
structure Connection where
  buffer : SendBuffer := {}
  arriving : List Bytes := []
  ending : Ending := .closed
  deriving DecidableEq, Repr

/-- The most that one read returns. -/
def readSize : Nat := 8192

/-- What the reads of a connection return, in order. A read returns no more than
one portion, and never nothing. -/
def Connection.reads (c : Connection) : List Bytes :=
  (c.arriving.filter (· ≠ [])).flatMap (Pieces.fill readSize readSize)

/-- What a session finds around it. -/
structure Platform where
  /-- The answer when the terminal is asked for, counted from 0. -/
  terminal : Nat → Except TerminalError Terminal
  /-- The signals that arrive while the process is stopped, and where the process
  runs then. -/
  whileStopped : List (Signal × Foreground) := []

/-- What a session reports beyond its output. -/
inductive SessionEvent
  /-- The terminal was asked for, and could be offered or not. -/
  | terminal (found : Bool)
  /-- The bridge was started with this process number and place of the frame. -/
  | bridge (pid : Option Int32) (onTerminal : Bool)
  /-- The bridge asked the system to deliver a signal. -/
  | job (call : JobCall)
  /-- The bridge acted on a signal. -/
  | signal (meaning : Intent)
  /-- The bridge could not act on a signal as it should. -/
  | signalFailed (error : IoError)
  /-- A read was begun. -/
  | reading
  deriving DecidableEq, Repr

/-- The state of a session that replies can change. -/
structure Session where
  target : FrameTarget
  buffer : SendBuffer
  /-- The process number that the server last gave, 0 before that. -/
  pid : Int32 := 0
  /-- Whether the frame is on our terminal, as the bridge sees it. -/
  onTerminal : Bool
  /-- How often the terminal was asked for. -/
  asked : Nat := 0
  bridged : Bool := false
  /-- A request was sent again since this was last looked at. -/
  resent : Bool := false
  /-- The connection was closed. -/
  closed : Bool := false

namespace Session

/-- The session at the start of a connection. -/
def start (c : Config) (connection : Connection) : Session where
  target := .ofConfig c
  buffer := connection.buffer
  onTerminal := c.terminal

/-- Build a request with this opening and send it. -/
def request (c : Config) (p : Platform) (items : List Item) (opening : Request)
    (s : Session) : Except ClientError Unit × Session × List SessionEvent :=
  let terminal := p.terminal s.asked
  let asks := c.wantsTerminal
  let s := if asks then { s with asked := s.asked + 1 } else s
  let events := if asks then [.terminal terminal.isOk] else []
  match Request.body c s.target items terminal with
  | .error error => (.error error, s, events)
  | .ok body =>
    match SendBuffer.send (opening ++ body).encode s.buffer with
    | .error error buffer =>
      (.error (.io "failed to send request" error), { s with buffer }, events)
    | .ok _ buffer =>
      let s := { s with buffer }
      if body.offersTerminal then
        (.ok (), { s with bridged := true },
          events ++ [.bridge (knownPid s.pid) s.onTerminal])
      else (.ok (), s, events)

/-- Move on to the next target and send the request again. -/
def fallBack (c : Config) (p : Platform) (items : List Item) (s : Session) :
    Except ClientError Unit × Session × List SessionEvent :=
  let target := s.target.fallBack
  request c p items []
    { s with target, onTerminal := target.terminal, resent := true }

/-- Let the bridge act on one signal. -/
def signal (s : Session) (number : Signal) (foreground : Foreground) :
    Session × List SessionEvent :=
  let bridge : Bridge := { foreground, onTerminal := s.onTerminal, pid := s.pid }
  let handled := bridge.handle number s.buffer
  let report :=
    match handled.result with
    | .ok meaning => .signal meaning
    | .error error => .signalFailed error
  ({ s with buffer := handled.buffer }, handled.calls.map .job ++ [report])

/-- Let the bridge act on signals in order. -/
def signals : List (Signal × Foreground) → Session → Session × List SessionEvent
  | [], s => (s, [])
  | (number, foreground) :: rest, s =>
    let first := s.signal number foreground
    let others := signals rest first.1
    (others.1, first.2 ++ others.2)

/-- Stop the process until it is continued. Signals that arrive meanwhile reach
the bridge, if there is one. -/
def suspend (p : Platform) (s : Session) : Session × List SessionEvent :=
  if s.bridged then signals p.whileStopped s else (s, [])

/-- What replies do to a session. -/
def handler (c : Config) (p : Platform) (items : List Item) :
    ReplyHandler Session SessionEvent where
  serverPid pid s := { s with pid }
  unsupported := fallBack c p items
  suspend := suspend p

/-- Write all that is pending for the server. -/
def flush (s : Session) : Except IoError Unit × Session :=
  match SendBuffer.flush s.buffer with
  | .ok _ buffer => (.ok (), { s with buffer })
  | .error error buffer => (.error error, { s with buffer })

/-- From now on the server takes nothing, and writing fails with this error. -/
def cutOff (error : IoError) (s : Session) : Session :=
  { s with buffer := s.buffer.cutOff error }

/-- Close the connection: write what is pending, if that is possible. Closing
again does nothing. -/
def close (s : Session) : Session :=
  if s.closed then s else { s.flush.2 with closed := true }

/-- Whether the user is told that the client waits. -/
def showsWaiting (c : Config) (s : Session) : Bool :=
  !c.eval && !s.target.terminal && !s.target.noWait && !c.quiet

/-- What the user is told while the client waits. -/
def waitingMessage : String := "Waiting for Emacs..."

/-- The steps of a session. -/
abbrev Step := ReplyReader.Step Session SessionEvent

/-- Wait for the server no longer than this. -/
def setTimeout (timeout : Option Duration) : Step Unit :=
  if timeout = some ⟨0⟩ then throw (.io "failed to set read timeout" .zeroTimeout)
  else pure ()

theorem setTimeout_of_instant {timeout : Option Duration} (instant : timeout = some ⟨0⟩)
    (r : ReplyReader Session SessionEvent) :
    setTimeout timeout r = .error (.io "failed to set read timeout" .zeroTimeout) r := by
  rw [setTimeout, if_pos instant]
  rfl

theorem setTimeout_of_lasting {timeout : Option Duration} (lasting : timeout ≠ some ⟨0⟩)
    (r : ReplyReader Session SessionEvent) : setTimeout timeout r = .ok () r := by
  rw [setTimeout, if_neg lasting]
  rfl

/-- Tell the user that the client waits, unless it does not or is to be quiet. -/
def showWaiting (c : Config) (h : ReplyHandler Session SessionEvent) : Step Unit := do
  if showsWaiting c (← get).state then ReplyReader.showOpen h waitingMessage

/-- Write all that is pending for the server, and say whether that failed. -/
def beforeRead : Step (Option IoError) := fun r =>
  match r.state.flush with
  | (.ok _, state) => .ok none ({ r with state }.record [.handler .reading])
  | (.error error, state) => .ok (some error) { r with state }

/-- What the failure of a read means: one that took too long ends the session. -/
def readFailed (error : IoError) : Step (Option IoError) :=
  if error.kind = .timedOut then throw .timeout else pure (some error)

/-- Tell the user again that the client waits, if a request was sent again. -/
def afterRead (c : Config) (h : ReplyHandler Session SessionEvent) : Step Unit := do
  let resent := (← get).state.resent
  modify fun r => { r with state := { r.state with resent := false } }
  if resent then showWaiting c h

/-- Read until the server closes the connection. The result is the error that
broke the reading off, if there was one. -/
def readAll (c : Config) (h : ReplyHandler Session SessionEvent) (ending : Ending) :
    List Bytes → Step (Option IoError)
  | [] => do
    match ← beforeRead, ending with
    | some error, _ => readFailed error
    | none, .closed => pure none
    | none, .failed error => readFailed error
    | none, .dropped reading writing => do
      modify fun r => { r with state := r.state.cutOff writing }
      readFailed reading
  | bytes :: rest => do
    match ← beforeRead with
    | some error => readFailed error
    | none =>
      ReplyReader.feed h bytes
      afterRead c h
      readAll c h ending rest

/-- A session from the first request to the last reply. -/
def converse (c : Config) (p : Platform) (items : List Item) (connection : Connection) :
    Step Outcome := do
  let h := handler c p items
  setTimeout c.timeout
  ReplyReader.act (request c p items (Request.opening c))
  showWaiting c h
  let failure ← readAll c h connection.ending connection.reads
  let outcome ← ReplyReader.finish h
  modify fun r => { r with state := r.state.close }
  match failure with
  | some error => throw (.io "failed to read from server" error)
  | none => return outcome

/-- What is known when a session is over. -/
structure Report where
  result : Except ClientError Outcome
  session : Session
  events : List (Event SessionEvent)
  /-- Standard output, as the session leaves it. -/
  stdout : Sink
  /-- Standard error, as the session leaves it. -/
  stderr : Sink

/-- The report of a session that came to this result with this reader. -/
def Report.of (result : Except ClientError Outcome) (r : ReplyReader Session SessionEvent) :
    Report := ⟨result, r.state, r.events, r.out, r.err⟩

/-- The bytes that the server was sent when the connection has been closed. -/
def Report.sent (r : Report) : Bytes := r.session.close.buffer.taken

/-- Run a session over a connection. Output goes to the two sinks, and `input` is
what standard input holds. -/
def run (c : Config) (p : Platform) (input : Bytes) (connection : Connection)
    (out err : Sink) : Report :=
  let reader : ReplyReader Session SessionEvent :=
    { suppressed := c.suppressOutput, out, err, state := start c connection }
  match converse c p (Item.all c input) connection reader with
  | .ok outcome r => .of (.ok outcome) r
  | .error error r => .of (.error error) r

end Session

end EditorClient
