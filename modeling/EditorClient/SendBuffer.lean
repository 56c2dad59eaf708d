/-
# The send buffer

What goes to the server is gathered in a buffer of fixed size and written when a
line is complete or the buffer is full. The writer below may take fewer bytes
than it is offered, may be interrupted, or may fail. Bytes that it has not taken
stay in the buffer, in order, also when it fails; what had not yet come into the
buffer then is dropped.

A writer is a list of what its next calls do, and what every later call does.
Each call is recorded, so that the bytes that have left are known.
-/

import EditorClient.Error

namespace EditorClient

/-- What one call of the writer does. -/
inductive WriteStep
  /-- It takes at most so many of the bytes that it is offered. -/
  | accepts (limit : Nat)
  /-- It is interrupted before it takes anything, and is called again. -/
  | interrupted
  /-- It fails. -/
  | fails (error : IoError)
  deriving DecidableEq, Repr

/-- What the calls of a writer do: first the script, and then either take all
that is offered or fail for good. -/
structure Writer where
  script : List WriteStep := []
  brokenBy : Option IoError := none
  deriving DecidableEq, Repr

/-- A call of the writer. -/
inductive WriteCall
  | took (offered : Nat) (bytes : Bytes)
  | interrupted (offered : Nat)
  | failed (offered : Nat) (error : IoError)
  | flushed
  deriving DecidableEq, Repr

/-- The bytes that a call took. -/
def WriteCall.bytes : WriteCall → Bytes
  | .took _ bytes => bytes
  | _ => []

/-- Bytes on their way to the server. The calls of the writer are recorded with
the latest first. -/
structure SendBuffer where
  writer : Writer := {}
  pending : Bytes := []
  calls : List WriteCall := []
  deriving DecidableEq, Repr

namespace SendBuffer

/-- How many bytes the buffer holds. -/
def capacity : Nat := 4096

/-- What is left after offering bytes to a writer until all are taken or an
error stops it: the error, the bytes not taken, the rest of the script and the
calls made, in order. -/
structure Drained where
  error : Option IoError
  left : Bytes
  script : List WriteStep
  calls : List WriteCall

/-- A call before the others. -/
def Drained.afterCall (call : WriteCall) (d : Drained) : Drained :=
  { d with calls := call :: d.calls }

/-- Offer bytes to a writer until all are taken. A call that takes nothing though
it is offered something is an error; an interrupted call is made again. -/
def drain (brokenBy : Option IoError) : List WriteStep → Bytes → Drained
  | script, [] => ⟨none, [], script, []⟩
  | [], bytes =>
    match brokenBy with
    | none => ⟨none, [], [], [.took bytes.length bytes]⟩
    | some error => ⟨some error, bytes, [], [.failed bytes.length error]⟩
  | .accepts limit :: script, bytes =>
    if limit = 0 then ⟨some .wroteNothing, bytes, script, [.took bytes.length []]⟩
    else (drain brokenBy script (bytes.drop limit)).afterCall
      (.took bytes.length (bytes.take limit))
  | .interrupted :: script, bytes =>
    (drain brokenBy script bytes).afterCall (.interrupted bytes.length)
  | .fails error :: script, bytes =>
    ⟨some error, bytes, script, [.failed bytes.length error]⟩

/-- Operations on the buffer. The buffer keeps its state when one fails. -/
abbrev Op := EStateM IoError SendBuffer

/-- Write everything that is pending. -/
def flush : Op Unit := fun b =>
  let d := drain b.writer.brokenBy b.writer.script b.pending
  let b := { b with
    writer := { b.writer with script := d.script }
    pending := d.left
    calls := d.calls.reverse ++ b.calls }
  match d.error with
  | none => .ok () { b with calls := .flushed :: b.calls }
  | some error => .error error b

/-- Whether what is pending is to be written now. -/
def isDue (b : SendBuffer) : Bool :=
  b.pending.length = capacity || b.pending.getLast? = some Bytes.newline

/-- Add a part that fits into the buffer, and write if that is due. -/
def put (part : Bytes) : Op Unit := do
  modify fun b => { b with pending := b.pending ++ part }
  if (← get).isDue then flush

/-- The parts in which a message comes into the buffer: the first fills the room
that is left, and each that follows finds the buffer empty. A message without
bytes has no parts. -/
def parts (b : SendBuffer) (message : Bytes) : List Bytes :=
  if message = [] then []
  else Pieces.fill capacity (capacity - b.pending.length) message

/-- Send a message. -/
def send (message : Bytes) : Op Unit := do
  ((← get).parts message).forM put

/-- The buffer in front of a writer that from now on fails for good. -/
def cutOff (error : IoError) (b : SendBuffer) : SendBuffer :=
  { b with writer := { brokenBy := some error } }

/-- The bytes that the writer has taken, in order. -/
def taken (b : SendBuffer) : Bytes := b.calls.reverse.flatMap WriteCall.bytes

end SendBuffer

end EditorClient
