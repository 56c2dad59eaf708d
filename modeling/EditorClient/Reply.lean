/-
# Replies

The server answers in lines, each with the name of a directive and at most one
argument. `Reply.parse` reads a line whose newline has been removed. A line that
is none of the known directives is kept as it is, and so is a process number
that cannot be read.
-/

import EditorClient.Text.Blank
import EditorClient.Text.Decimal
import EditorClient.Text.Utf8
import EditorClient.Wire.Token

namespace EditorClient

open Bytes

/-- One line from the server. -/
inductive Reply
  /-- The server says which process it is. -/
  | serverPid (pid : Int32)
  /-- The server cannot open a frame on the display it was asked to use. -/
  | windowSystemUnsupported
  /-- Text to print on a line of its own. -/
  | print (text : Bytes)
  /-- Text to print where the last one ended. -/
  | printNoNewline (text : Bytes)
  /-- The server could not do what it was asked. -/
  | error (text : Bytes)
  /-- The client is to stop until it is continued. -/
  | suspend
  /-- Any other line. -/
  | unknown (line : Bytes)
  deriving DecidableEq, Repr

namespace Reply

/-- The argument of a line that carries the directive `name`. The name is
followed by a space or ends the line, so one name is never taken for a longer
one. -/
def argument? (name : String) (line : Bytes) : Option Bytes :=
  match after? (ofText name) line with
  | none => none
  | some [] => some []
  | some (b :: arg) => if b = space then some arg else none

/-- The process number in an argument: the first word after leading blanks. -/
def pid? (arg : Bytes) : Option Int32 := do
  let text ← Utf8.strict? arg
  Decimal.int32? (Pieces.cut ' ' (Blank.trim text.toList)).1

/-- The reply that a line is. -/
def parse (line : Bytes) : Reply :=
  if let some arg := argument? "-emacs-pid" line then
    match pid? arg with
    | some pid => .serverPid pid
    | none => .unknown line
  else if (argument? "-window-system-unsupported" line).isSome then
    .windowSystemUnsupported
  else if let some arg := argument? "-print" line then .print (Token.unescape arg)
  else if let some arg := argument? "-print-nonl" line then
    .printNoNewline (Token.unescape arg)
  else if let some arg := argument? "-error" line then .error (Token.unescape arg)
  else if (argument? "-suspend" line).isSome then .suspend
  else .unknown line

/-- A reply as it is shown in diagnostics, with its text not quoted. -/
def describe : Reply → String
  | .serverPid pid => "-emacs-pid " ++ Decimal.ofInt pid.toInt
  | .windowSystemUnsupported => "-window-system-unsupported"
  | .print text => "-print " ++ Utf8.lossy text
  | .printNoNewline text => "-print-nonl " ++ Utf8.lossy text
  | .error text => "-error " ++ Utf8.lossy text
  | .suspend => "-suspend"
  | .unknown line => Utf8.lossy line

end Reply

end EditorClient
