/-
# Reading replies

The bytes of the server are fed to a reader as they arrive. The reader acts on
every line that is complete and keeps the rest. Printing is done here; what
concerns the request or the process is handed to a handler, which has a state of
its own and reports what it did.

Everything that happens is recorded in one log, so that the order of output on
both sinks and of the calls of the handler is known.
-/

import EditorClient.Reply.Action
import EditorClient.Sink
import EditorClient.Wire.Lines

namespace EditorClient

/-- How a run that reached its end turned out. -/
inductive Outcome
  | success
  /-- The server reported at least one error. -/
  | serverError
  deriving DecidableEq, Repr

/-- The status with which an outcome ends the run. -/
def Outcome.exitStatus : Outcome → Nat
  | .success => 0
  | .serverError => 1

/-- Something that happened while replies were read. `ε` is what the handler
reports. -/
inductive Event (ε : Type)
  /-- Bytes reached standard output. -/
  | out (bytes : Bytes)
  /-- Bytes reached standard error. -/
  | err (bytes : Bytes)
  /-- Standard output was flushed. -/
  | flushed
  /-- The handler was told the process number of the server. -/
  | serverPid (pid : Int32)
  /-- The handler was told that the window system cannot be used. -/
  | unsupported
  /-- The handler was told to stop the process. -/
  | suspend
  /-- The handler reports this. -/
  | handler (report : ε)
  deriving DecidableEq, Repr

/-- What is done outside the reader about a reply. Each function has the state of
the handler before and after, and what it reports, in order. -/
structure ReplyHandler (σ ε : Type) where
  serverPid : Int32 → σ → σ
  unsupported : σ → Except ClientError Unit × σ × List ε
  suspend : σ → σ × List ε

/-- A reader of replies. The log has the latest event first. -/
structure ReplyReader (σ ε : Type) where
  /-- What has arrived since the last line end. -/
  pending : Bytes := []
  atLineStart : Bool := true
  outcome : Outcome := .success
  suppressed : Bool
  out : Sink := {}
  err : Sink := {}
  state : σ
  log : List (Event ε) := []

namespace ReplyReader

variable {σ ε : Type}

/-- Steps of a reader. The reader keeps its state when a step fails. -/
abbrev Step (σ ε : Type) := EStateM ClientError (ReplyReader σ ε)

/-- The error of a run whose output could not be written, or not be flushed. -/
def outputFailed (error : IoError) : ClientError := .io "failed to write output" error

/-- Add events, given in order, to the log. -/
def record (events : List (Event ε)) (r : ReplyReader σ ε) : ReplyReader σ ε :=
  { r with log := events.reverse ++ r.log }

/-- Write to standard output. -/
def writeOut (bytes : Bytes) : Step σ ε Unit := fun r =>
  let taken := r.out.taken bytes
  let next := { r with out := r.out.after bytes }.record (if taken = [] then [] else [.out taken])
  match r.out.failure bytes with
  | none => .ok () next
  | some error => .error (outputFailed error) next

/-- Flush standard output. -/
def flushOut : Step σ ε Unit := fun r =>
  let next := { r with out := r.out.flushed }
  match r.out.flushFailure with
  | none => .ok () (next.record [.flushed])
  | some error => .error (outputFailed error) next

/-- Write to standard error. -/
def writeErr (bytes : Bytes) : Step σ ε Unit := fun r =>
  let taken := r.err.taken bytes
  let next := { r with err := r.err.after bytes }.record (if taken = [] then [] else [.err taken])
  match r.err.failure bytes with
  | none => .ok () next
  | some error => .error (outputFailed error) next

/-- Flush standard error. -/
def flushErr : Step σ ε Unit := fun r =>
  let next := { r with err := r.err.flushed }
  match r.err.flushFailure with
  | none => .ok () next
  | some error => .error (outputFailed error) next

/-- Let the state of the handler take a step of its own. -/
def act (f : σ → Except ClientError Unit × σ × List ε) : Step σ ε Unit := fun r =>
  let (result, state, reports) := f r.state
  let next := { r with state }.record (reports.map .handler)
  match result with
  | .ok _ => .ok () next
  | .error error => .error error next

/-- Take one action. -/
def perform (h : ReplyHandler σ ε) : Action → Step σ ε Unit
  | .out bytes => writeOut bytes
  | .err bytes => do
    writeErr bytes
    flushErr
  | .flush => flushOut
  | .atLineStart now => modify fun r => { r with atLineStart := now }
  | .serverError => modify fun r => { r with outcome := .serverError }
  | .serverPid pid => modify fun r =>
      { r with state := h.serverPid pid r.state }.record [.serverPid pid]
  | .unsupported => do
    modify (record [.unsupported])
    act h.unsupported
  | .suspend => do
    modify (record [.suspend])
    act fun s => (.ok (), h.suspend s)

/-- Take actions in order until one fails. -/
def performAll (h : ReplyHandler σ ε) (actions : List Action) : Step σ ε Unit :=
  actions.forM (perform h)

/-- Act on one line. An empty line is no reply. -/
def dispatch (h : ReplyHandler σ ε) (line : Bytes) : Step σ ε Unit := do
  let r ← get
  if line ≠ [] then
    performAll h ((Reply.parse line).actions r.atLineStart r.suppressed)

/-- Take in bytes from the server: act on the lines that are now complete, keep
the rest, and flush. Where acting on a line fails, all of the bytes are kept;
where only the flush fails, the rest is. -/
def feed (h : ReplyHandler σ ε) (bytes : Bytes) : Step σ ε Unit := do
  modify fun r => { r with pending := r.pending ++ bytes }
  let arrived := Lines.separate (← get).pending
  arrived.1.forM (dispatch h)
  modify fun r => { r with pending := arrived.2 }
  perform h .flush

/-- Show a message that leaves the cursor on its line. -/
def showOpen (h : ReplyHandler σ ε) (message : String) : Step σ ε Unit :=
  performAll h (Reply.openLine message)

/-- Act on a last line that no newline ended, end the line of the output, and say
how the run turned out. -/
def finish (h : ReplyHandler σ ε) : Step σ ε Outcome := do
  let line := (← get).pending
  modify fun r => { r with pending := [] }
  dispatch h line
  performAll h (Reply.closeLine (← get).atLineStart)
  return (← get).outcome

/-- The log in the order in which things happened. -/
def events (r : ReplyReader σ ε) : List (Event ε) := r.log.reverse

end ReplyReader

end EditorClient
