/-
# Where a server might be

A server is looked for under the name of a socket or of a server file. A name
that the user or the environment gives replaces the default ones; the socket
comes before the server file.
-/

import EditorClient.Config
import EditorClient.Error

namespace EditorClient

/-- A place where a server might be. It is explicit if the user or the
environment named it. -/
inductive Candidate
  | socket (name : Bytes) (explicit : Bool)
  | serverFile (name : Bytes) (explicit : Bool)
  deriving DecidableEq, Repr

namespace Candidate

/-- The name of the default socket and of the default server file. -/
def defaultName : Bytes := Bytes.ofText "server"

/-- The name under which a server is looked for. -/
def name : Candidate → Bytes
  | .socket name _ | .serverFile name _ => name

/-- Whether the user or the environment named this place. -/
def isExplicit : Candidate → Bool
  | .socket _ explicit | .serverFile _ explicit => explicit

/-- Whether this place is a local socket. -/
def isSocket : Candidate → Bool
  | .socket .. => true
  | .serverFile .. => false

/-- The error to report where an explicit place could not be used and there is
nothing else to do. -/
def accessError : Candidate → ClientError
  | .socket name _ => .socketAccess name
  | .serverFile name _ => .serverFileAccess name

/-- The places to look at, in order. -/
def all (c : Config) : List Candidate :=
  match c.socketName, c.serverFile with
  | some name, _ => [.socket name true]
  | none, some name => [.serverFile name true]
  | none, none => [.socket defaultName false, .serverFile defaultName false]

end Candidate

end EditorClient
