/-
# Names of sockets and server files

The name of a socket without a slash or a backslash stands for a socket in a
directory that belongs to the user, below the directory for temporary files.
Where it is missing there and the user has become another one, the directory of
the user who logged in is looked at instead.

A path is used only if something is there and belongs to the effective user, and
if the path fits into the address of a local socket.
-/

import EditorClient.Environment
import EditorClient.Error
import EditorClient.Text.Decimal

namespace EditorClient

open Bytes

/-- A path below another. An absolute path replaces it. -/
def joinPath (base path : Bytes) : Bytes :=
  if path.head? = some slash then path
  else if base = [] ∨ base.getLast? = some slash then base ++ path
  else base ++ slash :: path

/-- The number of a user account. -/
abbrev UserId := UInt32

/-- What looking at a path shows. -/
inductive Inspection
  /-- Nothing is there. -/
  | missing
  /-- It cannot be told what is there. -/
  | failed (error : IoError)
  /-- What is there belongs to this user. -/
  | ownedBy (user : UserId)
  deriving DecidableEq, Repr

/-- What the machine knows about users and paths. -/
structure Host where
  /-- The effective user. -/
  user : UserId
  inspect : Bytes → Inspection
  /-- The number of the account with a name. -/
  account : String → Option UserId
  /-- The home directory where the environment names none. -/
  home : Option Bytes

namespace Host

/-- The size of the address of a local socket, which ends with a zero byte. -/
def socketPathLimit : Nat := 108

/-- Whether something is at a path and belongs to a user. -/
def vet (host : Host) (user : UserId) (path : Bytes) : Except TransportError Unit :=
  match host.inspect path with
  | .missing => .error .unreachable
  | .failed error => .error (.inaccessible path error)
  | .ownedBy owner => if owner = user then .ok () else .error .foreignOwner

/-- Whether a path fits into the address of a local socket. -/
def checkLength (path : Bytes) : Except TransportError Unit :=
  if socketPathLimit ≤ path.length then .error (.nameTooLong path) else .ok ()

/-- The path itself, if it fits and the effective user owns what is there. -/
def usable (host : Host) (path : Bytes) : Except TransportError Bytes := do
  checkLength path
  host.vet host.user path
  return path

/-- The socket with a name in the directory of a user. -/
def userSocket (temporary : Bytes) (user : UserId) (name : Bytes) : Bytes :=
  joinPath (joinPath temporary (ofText ("emacs" ++ Decimal.ofNat user.toNat))) name

/-- The user who logged in, as the environment and the accounts have it. -/
def loginUser (host : Host) (env : Environment) : Option UserId := do
  let name ← (env.getText? "LOGNAME").or (env.getText? "USER")
  host.account name

/-- The directory for temporary files. -/
def temporaryDirectory (env : Environment) : Bytes :=
  (env.get? "TMPDIR").getD (ofText "/tmp")

/-- Whether the name of a socket is a path. -/
def isPath (name : Bytes) : Bool := name.any fun b => b = slash || b = 92

/-- The path of the socket with a name. -/
def socketPath (host : Host) (env : Environment) (name : Bytes) :
    Except TransportError Bytes :=
  if isPath name then host.usable name
  else
    let temporary := temporaryDirectory env
    let first := userSocket temporary host.user name
    match checkLength first with
    | .error error => .error error
    | .ok _ =>
      match host.vet host.user first with
      | .ok _ => .ok first
      | .error error =>
        match host.loginUser env with
        | none => .error error
        | some login =>
          if login = host.user then .error error
          else host.usable (userSocket temporary login name)

/-- The path of the server file with a name, if there is a home directory to
look in or the name is an absolute path. -/
def serverFilePath (host : Host) (env : Environment) (name : Bytes) : Option Bytes :=
  if name.head? = some slash then some name
  else
    ((env.get? "HOME").or host.home).map fun home =>
      joinPath (joinPath (joinPath home (ofText ".emacs.d")) (ofText "server")) name

end Host

end EditorClient
