/-
# What a reply makes the client do

A reply is answered by a list of actions, taken in order until one fails. The
list depends on whether the output is at the start of a line and on whether
printing is suppressed, and on nothing else.

Text that is to stand on a line of its own is preceded by a line end if the
output is not at the start of a line. Whether it is there afterwards is recorded
by an action of its own, which comes only after the output has succeeded.
-/

import EditorClient.Reply

namespace EditorClient

/-- One step in answering a reply. -/
inductive Action
  /-- Write to standard output. -/
  | out (bytes : Bytes)
  /-- Write to standard error, and flush it. -/
  | err (bytes : Bytes)
  /-- Flush standard output. -/
  | flush
  /-- Record whether the output is at the start of a line. -/
  | atLineStart (now : Bool)
  /-- Record that the server reported an error. -/
  | serverError
  /-- Record the process number of the server. -/
  | serverPid (pid : Int32)
  /-- Ask again, for a frame elsewhere. -/
  | unsupported
  /-- Stop until continued. -/
  | suspend
  deriving DecidableEq, Repr

namespace Reply

/-- The line end that is due before text on a line of its own. -/
def freshLine (atLineStart : Bool) : List Action :=
  if atLineStart then [] else [.out [Bytes.newline]]

/-- What there is to record after printing a text: where the output is, unless
the text was empty. -/
def recordEnd (text : Bytes) : List Action :=
  match text.getLast? with
  | none => []
  | some b => [.atLineStart (b = Bytes.newline)]

/-- What a reply makes the client do. -/
def actions (atLineStart suppressed : Bool) : Reply → List Action
  | .serverPid pid => [.serverPid pid]
  | .windowSystemUnsupported => [.unsupported]
  | .print text =>
    if suppressed then []
    else freshLine atLineStart ++ .out text :: recordEnd text
  | .printNoNewline text => if suppressed then [] else .out text :: recordEnd text
  | .error text =>
    freshLine atLineStart ++
      .err (Bytes.ofText "*ERROR*: ") :: .err text :: recordEnd text ++ [.serverError]
  | .suspend => freshLine atLineStart ++ [.atLineStart true, .flush, .suspend]
  | .unknown line =>
    freshLine atLineStart ++
      [.out (Bytes.ofText "*ERROR*: Unknown message: "), .out line,
        .out [Bytes.newline], .atLineStart true]

/-- What showing a message makes the client do that leaves the cursor behind the
message. -/
def openLine (message : String) : List Action :=
  [.out (Bytes.ofText message), .flush, .atLineStart false]

/-- What the end of the replies makes the client do. -/
def closeLine (atLineStart : Bool) : List Action :=
  (if atLineStart then [] else [.out [Bytes.newline], .atLineStart true]) ++ [.flush]

end Reply

end EditorClient
