/-
# Machines

What the client finds on the machine on which it runs: files, the servers that
listen, the network, the accounts and the user. A machine is a value, so that a
whole run of the client is a function of it.
-/

import EditorClient.Machine.FileTree
import EditorClient.Machine.Script
import EditorClient.Server.File
import EditorClient.Server.Path

namespace EditorClient

open Bytes

/-- A server that listens, either at a local socket or on the network. It sends
its reply to every client and then ends the connection. -/
structure Server where
  /-- The path of its socket or of its server file. -/
  path : Bytes
  reply : Bytes
  /-- The number of its service on the network. -/
  service : Option UInt16 := none
  deriving DecidableEq, Repr

/-- What comes of calling an address: the number of the server that takes the
connection, or why none does. -/
inductive CallAnswer
  | taken (server : Nat)
  | failed (error : IoError)
  deriving DecidableEq, Repr

/-- What can be reached over the network. -/
inductive Network
  /-- Nothing can. -/
  | down
  /-- The servers of the machine itself can, under its own address and under the
  address that stands for any. -/
  | ownServers
  /-- The addresses that are listed give these answers. No other can be reached. -/
  | listed (answers : List (Address × CallAnswer))
  deriving DecidableEq, Repr

/-- A machine with one user's view of it. -/
structure Machine where
  tree : FileTree := {}
  /-- The current directory. -/
  directory : Place := []
  servers : List Server := []
  network : Network := .down
  accounts : List (String × UserId) := []
  /-- The effective user. -/
  user : UserId := 0
  /-- The user to whom all files belong. -/
  owner : UserId := 0
  /-- The home directory where the environment names none. -/
  home : Option Bytes := none
  deriving DecidableEq, Repr

namespace Machine

/-- Put something at the end of a path. -/
def create (m : Machine) (path : Bytes) (entry : FileEntry) : Machine :=
  { m with tree := m.tree.create m.directory path entry }

/-- Let a server listen at a local socket. -/
def listenAt (m : Machine) (path reply : Bytes) : Machine :=
  { m.create path (.socket (some m.servers.length)) with
    servers := m.servers ++ [{ path, reply }] }

/-- The first number that is given to a service. -/
def firstService : UInt16 := 40000

/-- Let a server listen on the network and write its server file, which names
`host` and holds `token`. -/
def listenOnNetwork (m : Machine) (path host token reply : Bytes) : Machine :=
  let service := firstService + m.servers.length.toUInt16
  let line := host ++ colon :: ofText (Decimal.ofNat service.toNat) ++ [newline]
  { m.create path (.file (line ++ token)) with
    servers := m.servers ++ [{ path, reply, service }] }

/-- What is at the end of a path. -/
def find (m : Machine) (path : Bytes) : Except IoError FileEntry :=
  m.tree.find m.directory path

/-- What looking at a path shows. -/
def inspect (m : Machine) (path : Bytes) : Inspection :=
  match m.find path with
  | .ok _ => .ownedBy m.owner
  | .error error => if error.kind = .notFound then .missing else .failed error

/-- What the machine knows about users and paths. -/
def host (m : Machine) : Host where
  user := m.user
  inspect := m.inspect
  account name := m.accounts.lookup name
  home := m.home

/-- The content of a file that can be read. -/
def contents? (m : Machine) (path : Bytes) : Option Bytes :=
  match m.find path with
  | .ok (.file content) | .ok (.program content) => some content
  | _ => none

/-- The number of the server that takes a connection to a local socket. -/
def callSocket (m : Machine) (path : Bytes) : Except IoError Nat :=
  match m.find path with
  | .error error => .error error
  | .ok (.socket (some server)) => .ok server
  | .ok _ => .error .connectionRefused

/-- Whether an address stands for the servers of the machine itself. -/
def isOwn (ip : Ipv4) : Bool := ip = ⟨127, 0, 0, 1⟩ || ip = ⟨0, 0, 0, 0⟩

/-- The number of the server that takes a connection over the network. -/
def callAddress (m : Machine) (address : Address) : Except IoError Nat :=
  match m.network with
  | .down => .error .networkUnreachable
  | .ownServers =>
    if isOwn address.ip then
      match m.servers.findIdx? fun s => s.service = some address.service with
      | some server => .ok server
      | none => .error .connectionRefused
    else if address.ip.isLoopback then .error .connectionRefused
    else .error .networkUnreachable
  | .listed answers =>
    match answers.lookup address with
    | some (.taken server) => .ok server
    | some (.failed error) => .error error
    | none => .error .networkUnreachable

/-- The script at a path that can be run. -/
def programAt (m : Machine) (path : Bytes) : Except IoError Bytes :=
  match m.find path with
  | .error error => .error error
  | .ok (.program script) => .ok script
  | .ok _ => .error .permissionDenied

/-- The directories in which programs are looked for where the environment names
none. -/
def defaultSearchPath : Bytes := ofText "/bin:/usr/bin"

/-- The script of a program in the first of these directories that has it. A
program that is there and cannot be run counts only if there is no other. -/
def programIn (m : Machine) (name : Bytes) (otherwise : IoError) :
    List Bytes → Except IoError Bytes
  | [] => .error otherwise
  | directory :: rest =>
    match m.programAt (joinPath directory name) with
    | .ok script => .ok script
    | .error error =>
      if error = .permissionDenied then m.programIn name error rest
      else if error = .noSuchFile ∨ error = .notADirectory then m.programIn name otherwise rest
      else .error error

/-- The script of a program. A name without a slash is looked for in the
directories that the environment names. -/
def program (m : Machine) (env : Environment) (name : Bytes) : Except IoError Bytes :=
  if name.contains slash then m.programAt name
  else if FileTree.nameLimit < name.length then .error .nameTooLong
  else
    m.programIn name .noSuchFile
      (Pieces.split colon ((env.get? "PATH").getD defaultSearchPath))

/-- Run a program with arguments. -/
def run (m : Machine) (env : Environment) : List Bytes → Except IoError Script.Result
  | [] => .error .emptyCommand
  | name :: args => (m.program env name).map fun script => Script.run script args

end Machine

end EditorClient
