/-
# Requests

A request is one line of directives. Each directive is a dash and its name,
followed by its arguments as tokens, with exactly one space after the name and
after each argument. The line ends with a newline.

    -dir /home/u/ -current-frame -tty /dev/pts/3 xterm -file /tmp/a.txt
-/

import EditorClient.Wire.Token

namespace EditorClient

open Bytes

/-- A directive to the server: its name and its arguments, not yet quoted. -/
structure Directive where
  name : String
  args : List Bytes := []
  deriving DecidableEq, Repr

namespace Directive

/-- An argument as it stands on the line. -/
def encodeArg (arg : Bytes) : Bytes := Token.escape arg ++ [space]

/-- A directive as it stands on the line. -/
def encode (d : Directive) : Bytes :=
  dash :: ofText d.name ++ space :: d.args.flatMap encodeArg

end Directive

/-- What one line asks of the server, in order. -/
abbrev Request := List Directive

namespace Request

/-- The line of a request. -/
def encode (r : Request) : Bytes := r.flatMap Directive.encode ++ [newline]

end Request

/-- The line that tells the server that it may draw on our terminal again. -/
def resumeLine : Bytes := ofText "-resume \n"

/-- The line that tells the server that we are about to stop. -/
def suspendLine : Bytes := ofText "-suspend \n"

/-- What a connection over the network sends before its first line: the secret
that the server file holds. The request follows on the same line. -/
def authentication (token : Bytes) : Bytes := ofText "-auth " ++ token ++ [space]

end EditorClient
