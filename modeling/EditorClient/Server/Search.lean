/-
# The search for a server

The places where a server might be are tried in order, and the first that
connects is used. Where none does, the configuration decides: start a server and
try all places once more, or leave the items to the alternate editor, or give up.

The search is written for any way of trying a place. A failure that is about one
place lets the search go on; any other failure ends it.
-/

import EditorClient.Server.Candidate

namespace EditorClient

/-- How places are tried and a server is started, with a state of type `σ`. A
connection has type `κ`. -/
structure Seeker (σ κ : Type) where
  attempt : Candidate → EStateM ClientError σ κ
  launch : Option Bytes → EStateM IoError σ Unit
  /-- Show bytes to the user; the result is the part that could be shown. -/
  notice : Bytes → σ → Bytes × σ

/-- A step of the search. -/
inductive SearchStep
  /-- A place was tried. -/
  | tried (candidate : Candidate)
  /-- A server was started, with the name of the socket it is to use. -/
  | launched (socket : Option Bytes)
  /-- The user was shown these bytes. -/
  | noticed (shown : Bytes)
  deriving DecidableEq, Repr

/-- What came of a search. -/
inductive Found (κ : Type)
  | connected (connection : κ)
  /-- There is no server, and the alternate editor is to take over. -/
  | unavailable

/-- The search so far. The steps have the latest first. -/
structure Search (σ : Type) where
  state : σ
  steps : List SearchStep := []

namespace Search

variable {σ κ : Type}

/-- Parts of a search. The state is kept when one fails. -/
abbrev Op (σ : Type) := EStateM ClientError (Search σ)

/-- Record a step. -/
def record (step : SearchStep) : Op σ Unit :=
  modify fun s => { s with steps := step :: s.steps }

/-- Try one place. The result is `none` if the next one is to be tried. -/
def tryOne (seeker : Seeker σ κ) (candidate : Candidate) : Op σ (Option κ) := do
  record (.tried candidate)
  fun s =>
    match seeker.attempt candidate s.state with
    | .ok connection state => .ok (some connection) { s with state }
    | .error (.transport _) state => .ok none { s with state }
    | .error error state => .error error { s with state }

/-- Try places in order until one connects. -/
def tryAll (seeker : Seeker σ κ) : List Candidate → Op σ (Option κ)
  | [] => pure none
  | candidate :: rest => do
    match ← tryOne seeker candidate with
    | some connection => pure (some connection)
    | none => tryAll seeker rest

/-- Start a server. -/
def launch (seeker : Seeker σ κ) (socket : Option Bytes) : Op σ Unit := do
  record (.launched socket)
  fun s =>
    match seeker.launch socket s.state with
    | .ok _ state => .ok () { s with state }
    | .error error state => .error (.daemonLaunch error) { s with state }

/-- Show a notice to the user. It does not matter whether that works. -/
def notify (seeker : Seeker σ κ) (notice : String) : Op σ Unit := do
  let shown := seeker.notice (Bytes.ofText notice) (← get).state
  modify fun s => { s with state := shown.2 }
  record (.noticed shown.1)

/-- What the user is told when a server was started. -/
def launchNotice : String := "Emacs daemon should have started, trying to connect again\n"

/-- The error where no server is found and nothing says what to do then. -/
def notFound : List Candidate → ClientError
  | [] => .noTransport
  | first :: _ => if first.isExplicit then first.accessError else .noTransport

/-- Find a server. -/
def establish (seeker : Seeker σ κ) (c : Config) : Op σ (Found κ) := do
  let candidates := Candidate.all c
  match ← tryAll seeker candidates with
  | some connection => return .connected connection
  | none =>
    if c.launchesDaemon then
      launch seeker c.socketName
      notify seeker launchNotice
      match ← tryAll seeker candidates with
      | some connection => return .connected connection
      | none => throw .daemonUnreachable
    else if c.hasFallback then return .unavailable
    else throw (notFound candidates)

end Search

end EditorClient
