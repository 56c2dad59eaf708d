/-
# Endpoints

An endpoint is what a candidate turns into on a machine: the path of a socket
that was vetted, or the address and the secret from a server file. Connecting to
an endpoint gives an open connection; over the network the secret is already on
its way then, ahead of the first request.
-/

import EditorClient.Machine.Basic
import EditorClient.Server.Candidate
import EditorClient.Session
import EditorClient.Text.Quoted

namespace EditorClient

/-- A place where a server is expected to listen. -/
inductive Endpoint
  | socket (path : Bytes)
  | network (address : Address) (token : Bytes)
  deriving DecidableEq, Repr

/-- A connection to the server with this number. -/
structure Link where
  server : Nat
  connection : Connection
  deriving DecidableEq, Repr

namespace Endpoint

/-- Whether an endpoint is on another machine, as far as its address tells. -/
def isForeign : Endpoint → Bool
  | .socket _ => false
  | .network address _ => !address.ip.isLoopback

/-- An endpoint as it is shown in diagnostics, without its secret. -/
def describe : Endpoint → String
  | .socket path => "Local(" ++ Quoted.quote path ++ ")"
  | .network address _ =>
    "Remote \x7b addr: " ++ address.toText ++ ", token: \"<redacted>\" \x7d"

/-- What a server file says as it is shown in diagnostics, without its secret. -/
def describeFile (file : ServerFile) : String :=
  "ServerFile \x7b addr: " ++ file.address.toText ++ ", .. \x7d"

/-- What the server file at a path says, or `none` if the file cannot be read. -/
def readServerFile (m : Machine) (path : Bytes) : Except ClientError (Option ServerFile) :=
  match m.contents? path with
  | none => .ok none
  | some content => (ServerFile.parse content).map some

/-- The endpoint of a candidate. A failure that is no `ClientError.transport` is
not about this place alone. -/
def locate (m : Machine) (env : Environment) : Candidate → Except ClientError Endpoint
  | .socket name _ =>
    match m.host.socketPath env name with
    | .ok path => .ok (.socket path)
    | .error error => .error (.transport error)
  | .serverFile name _ =>
    match m.host.serverFilePath env name with
    | none => .error (.transport .unreachable)
    | some path => do
      match ← readServerFile m path with
      | some file => return .network file.address file.token
      | none => throw (.transport .unreachable)

/-- The connection that a server makes of a call. -/
def linkTo (m : Machine) (server : Nat) (buffer : SendBuffer) : Link where
  server
  connection :=
    { buffer, arriving := ((m.servers[server]?).map Server.reply).toList }

/-- Connect to an endpoint. -/
def connect (m : Machine) : Endpoint → Except TransportError Link
  | .socket path =>
    match m.callSocket path with
    | .ok server => .ok (linkTo m server {})
    | .error error =>
      if error.kind = .notFound then .error .unreachable else .error (.refused error)
  | .network address token =>
    match m.callAddress address with
    | .error error => .error (.refused error)
    | .ok server =>
      match SendBuffer.send (authentication token) {} with
      | .ok _ buffer => .ok (linkTo m server buffer)
      | .error error _ => .error (.refused error)

end Endpoint

end EditorClient
