/-
# Searching a machine

The search for a server on a machine. Why a place could not be used is reported,
except that a server file which is simply not there is not worth a report. Before
a connection to another machine is opened, the user is told about it unless the
client is to be quiet. It does not matter whether a report can be written; if the
user cannot be told of a connection, the program is broken off.
-/

import EditorClient.Machine.Endpoint
import EditorClient.Server.Search

namespace EditorClient

/-- Something that the search shows to the user beside standard output. -/
inductive Message
  /-- Why a place could not be used. -/
  | diagnostic (bytes : Bytes)
  /-- What is going on. -/
  | notice (bytes : Bytes)
  deriving DecidableEq, Repr

/-- The bytes of a message. -/
def Message.bytes : Message → Bytes
  | .diagnostic bytes | .notice bytes => bytes

/-- Something that appears on standard output while a server is looked for. -/
inductive Printed
  /-- The program with this name tells of a connection to this host. -/
  | connectedTo (program : String) (ip : Ipv4)
  /-- The beginning of such a line, which could not be printed. -/
  | cutOff (bytes : Bytes)
  /-- A program that was started prints this. -/
  | byChild (bytes : Bytes)
  deriving DecidableEq, Repr

/-- A machine that is being searched. The messages and what was printed have the latest
first. -/
structure Visit where
  machine : Machine
  messages : List Message := []
  printed : List Printed := []
  /-- Standard output of the program. -/
  out : Sink := {}
  /-- Standard error of the program. -/
  err : Sink := {}
  /-- The error with which a line could not be printed, if that broke the program off. -/
  brokenOff : Option IoError := none

/-- How a server is started on a machine: what the program prints that does it, and the
machine afterwards, or why it could not be done. -/
abbrev Launcher := Option Bytes → Machine → Bytes × Except IoError Machine

namespace Visit

/-- A line of the program with this name about something. -/
def line (program text : String) : Bytes := Bytes.ofText (program ++ ": " ++ text ++ "\n")

/-- The line that tells of a connection to this host. -/
def connectedLine (program : String) (ip : Ipv4) : Bytes :=
  line program ("connected to remote socket at " ++ ip.toText)

/-- What was written to standard output. -/
def output (v : Visit) : Bytes :=
  v.printed.reverse.flatMap fun x =>
    match x with
    | .connectedTo program ip => connectedLine program ip
    | .cutOff bytes | .byChild bytes => bytes

/-- Write as much of a message as standard error takes. -/
def say (message : Bytes → Message) (bytes : Bytes) (v : Visit) : Visit :=
  { v with messages := message (v.err.taken bytes) :: v.messages, err := v.err.after bytes }

/-- Report why a place could not be used. -/
def report (c : Config) (error : TransportError) (v : Visit) : Visit :=
  v.say .diagnostic (line c.program error.message)

/-- Whether it is worth a report that this place could not be used. -/
def isWorthReport (candidate : Candidate) (error : TransportError) : Bool :=
  candidate.isSocket || !error.isAbsent

/-- Tell the user that there is a connection to this host. -/
def tellOf (program : String) (ip : Ipv4) : EStateM ClientError Visit Unit := fun v =>
  let text := connectedLine program ip
  let out := v.out.after text
  match v.out.failure text with
  | none => .ok () { v with out, printed := .connectedTo program ip :: v.printed }
  | some error =>
    .error (.io "failed printing to stdout" error)
      { v with out, printed := .cutOff (v.out.taken text) :: v.printed, brokenOff := some error }

/-- Tell the user about a connection to another machine. -/
def announce (c : Config) (endpoint : Endpoint) : EStateM ClientError Visit Unit :=
  match endpoint with
  | .network address _ =>
    if endpoint.isForeign ∧ ¬ c.quiet then tellOf c.program address.ip else pure ()
  | .socket _ => pure ()

/-- Open a connection. -/
def call (c : Config) (endpoint : Endpoint) : EStateM ClientError Visit Link := fun v =>
  match endpoint.connect v.machine with
  | .ok link => .ok link v
  | .error error => .error (.transport error) (v.report c error)

/-- Try one place. -/
def attempt (c : Config) (candidate : Candidate) : EStateM ClientError Visit Link := fun v =>
  match Endpoint.locate v.machine c.env candidate with
  | .error (.transport error) =>
    .error (.transport error)
      (if isWorthReport candidate error then v.report c error else v)
  | .error error => .error error v
  | .ok endpoint => (announce c endpoint >>= fun _ => call c endpoint) v

/-- Start a server. What the program prints that does it, it prints in any case. -/
def start (launcher : Launcher) (socket : Option Bytes) : EStateM IoError Visit Unit := fun v =>
  let started := launcher socket v.machine
  let v := { v with printed := .byChild started.1 :: v.printed }
  match started.2 with
  | .ok machine => .ok () { v with machine }
  | .error error => .error error v

/-- The search of a machine on which servers are started in this way. -/
def seeker (c : Config) (launcher : Launcher) : Seeker Visit Link where
  attempt := attempt c
  launch := start launcher
  notice bytes v := (v.err.taken bytes, v.say .notice bytes)

end Visit

end EditorClient
