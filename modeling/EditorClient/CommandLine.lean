/-
# The command line

A run of the client: read the command line, settle the configuration, find a
server, run a session, and end with a status. Where no server is found or an
error ends the run, an alternate editor takes over if there is one: then its
output follows what had left the program, and its status is that of the run.

A run is a function of what the program finds around it and of how it was called.
What it finds may be anything that a search for a server, a connection and a
terminal can show; a machine with its files and servers is one of these.

The standard streams are sinks, and they may fail. A session that cannot write its
output ends with an error, like any other error of a session. A line of the program
itself that cannot be written breaks the program off, with a status of its own.
-/

import EditorClient.AlternateEditor
import EditorClient.LineBuffer
import EditorClient.Machine.Visit
import EditorClient.Options.Parse

namespace EditorClient

/-- How the program was called. -/
structure Invocation where
  /-- The name under which it was called. -/
  program : Bytes
  args : List Bytes
  env : Environment
  /-- What standard input holds. -/
  input : Bytes
  /-- The current directory, if it is known. -/
  directory : Except IoError Bytes

/-- What a run finds around it. The state, of type `σ`, is that of the search for a
server. -/
structure Surroundings (σ : Type) where
  /-- How a server is looked for and started. -/
  seeker : Config → Seeker σ Link
  start : σ
  /-- What the search has written to standard output. -/
  output : σ → Bytes
  /-- What the search has written to standard error. -/
  errors : σ → Bytes
  /-- Put a program with its arguments in the place of this one. -/
  replace : σ → List Bytes → Except IoError Script.Result
  platform : Platform
  /-- Standard output, as the search leaves it. -/
  stdout : σ → Sink := fun _ => {}
  /-- Standard error, as the search leaves it. -/
  stderr : σ → Sink := fun _ => {}
  /-- Where a search has failed: the error with which it could not print a line, if that is
  why. It broke the program off. -/
  brokenOff : σ → Option IoError := fun _ => none
  /-- The error with which reading standard input fails, if it does. -/
  unreadable : Option IoError := none

/-- An alternate editor that was to take over. -/
structure Handover where
  /-- The program to run and its arguments. -/
  command : List Bytes
  /-- What had been written to standard error by then. -/
  told : Bytes
  /-- Why it could not be run, if it could not. -/
  failure : Option IoError := none
  deriving DecidableEq, Repr

/-- What a run leaves behind. -/
structure Finish where
  status : Nat
  output : Bytes := []
  errors : Bytes := []
  /-- The server that was connected to and the bytes that it was sent. -/
  sent : Option (Nat × Bytes) := none
  /-- The alternate editor that was to take over, if one was. -/
  handover : Option Handover := none
  /-- The error with which a line of the program itself could not be written, if one could
  not. -/
  unwritten : Option IoError := none
  deriving DecidableEq, Repr

namespace CommandLine

variable {σ : Type}

/-- The name and version that `--version` prints. -/
def version : String := "edclient 0.1.0\n"

/-- The status of a program that was broken off. -/
def brokenOffStatus : Nat := 101

/-- A complaint on standard error. -/
def complaint (program text : String) : Bytes :=
  Bytes.ofText (program ++ ": " ++ text ++ "\n")

/-- Write a line of the program itself to standard error, and go on. A line that cannot be
written breaks the program off. -/
def tell (stderr : Sink) (line : Bytes) (soFar : Finish) (next : Sink → Finish → Finish) :
    Finish :=
  let told : Finish := { soFar with errors := soFar.errors ++ stderr.taken line }
  match stderr.failure line with
  | none => next (stderr.after line) told
  | some error => { told with status := brokenOffStatus, unwritten := some error }

/-- End a run with a line of the program itself. -/
def tellLast (stderr : Sink) (line : Bytes) (soFar : Finish) : Finish :=
  tell stderr line soFar fun _ told => told

/-- What the user is told about how to call the program. -/
def hint (program : String) : Bytes :=
  Bytes.ofText ("Try '" ++ program ++ " --help' for more information\n")

/-- A complaint about how the program was called. -/
def misuse (stderr : Sink) (program text : String) : Finish :=
  tell stderr (complaint program text) { status := 1 } fun stderr told =>
    tellLast stderr (hint program) told

/-- The report about an answer that could not be printed. -/
def unprinted (context : String) (error : IoError) : Bytes :=
  Bytes.ofText ("Error: " ++ context ++ "\n\nCaused by:\n    " ++ error.text ++ "\n")

/-- Print what the program was asked about itself. The report of a failure comes when the
program is over, and nothing comes of it if it cannot be written. -/
def inform (stdout stderr : Sink) (context text : String) : Finish :=
  let answer := Bytes.ofText text
  let printed : Finish := { status := 0, output := stdout.taken answer }
  match stdout.failure answer with
  | none => printed
  | some error =>
    let report := unprinted context error
    { printed with
      status := 1
      errors := stderr.taken report
      unwritten := stderr.failure report }

/-- The argument with which a server is started. -/
def daemonArgument (socket : Option Bytes) : Bytes :=
  Bytes.ofText "--daemon" ++
    match socket with
    | none => []
    | some name => Bytes.equals :: name

/-- The error of a server that could not be started. -/
def daemonFailed (socket : Option Bytes) (status : Nat) : IoError where
  kind := .other
  text := "emacs " ++ Utf8.lossy (daemonArgument socket) ++ " exited with exit status: " ++
    Decimal.ofNat status

/-- Start a server: run the editor as a daemon, and wait until it has detached. -/
def launch (env : Environment) : Launcher := fun socket m =>
  match m.run env [Bytes.ofText "emacs", daemonArgument socket] with
  | .error error => ([], .error error)
  | .ok result =>
    (result.output,
      if result.status = 0 then .ok m else .error (daemonFailed socket result.status))

/-- The name under which the program was called, as text. -/
def programName (i : Invocation) : String := Utf8.lossy i.program

/-- What is reported of an error that ends a run, if there is one. -/
def reportOf (program : String) : Option ClientError → Bytes
  | none => []
  | some error => complaint program error.message

/-- What comes of putting the alternate editor in the place of the program. -/
def handOver (replace : List Bytes → Except IoError Script.Result) (c : Config) :
    Except IoError Script.Result :=
  match AlternateEditor.refusal c with
  | some error => .error error
  | none => replace (AlternateEditor.commandLine c)

/-- End a run that has come this far, after an error if there is one: report the
error, and hand over to the alternate editor if there is one. The last `held`
bytes of the output have not left the program. -/
def fail (replace : List Bytes → Except IoError Script.Result) (c : Config) (stderr : Sink)
    (soFar : Finish) (held : Nat) (error : Option ClientError) : Finish :=
  tell stderr (reportOf c.program error) { soFar with status := 1 } fun stderr soFar =>
    let command := AlternateEditor.commandLine c
    if (c.alternateEditor.getD "") = "" then soFar
    else
      match handOver replace c with
      | .ok result =>
        { soFar with
          status := result.status
          output := soFar.output.take (soFar.output.length - held) ++ result.output
          handover := some { command, told := soFar.errors } }
      | .error cause =>
        tellLast stderr (complaint c.program (AlternateEditor.failed c cause).message)
          { soFar with handover := some { command, told := soFar.errors, failure := some cause } }

/-- The bytes that went to standard output. -/
def outputOf (events : List (Event SessionEvent)) : Bytes :=
  events.flatMap fun e =>
    match e with
    | .out bytes => bytes
    | _ => []

/-- The bytes that went to standard error. -/
def errorsOf (events : List (Event SessionEvent)) : Bytes :=
  events.flatMap fun e =>
    match e with
    | .err bytes => bytes
    | _ => []

/-- What standard output holds back after these events. -/
def heldBack (events : List (Event SessionEvent)) : Bytes :=
  events.foldl
    (fun held e =>
      match e with
      | .out bytes => LineBuffer.write held bytes
      | .flushed => []
      | _ => held)
    []

/-- A session over a connection that was found, where the search has come to this state. It
does not begin if it needs standard input and cannot read it. -/
def sessionOver (w : Surroundings σ) (i : Invocation) (c : Config) (s : σ) (link : Link) :
    Session.Report :=
  let begun := Session.run c w.platform i.input link.connection (w.stdout s) (w.stderr s)
  match w.unreadable with
  | none => begun
  | some error =>
    if c.eval ∧ c.items = [] then
      { result := .error (.io "failed to read standard input" error)
        session := Session.start c link.connection
        events := []
        stdout := w.stdout s
        stderr := w.stderr s }
    else begun

/-- Run a session over a connection that was found, and end the run. A run that
ends without its session having been read to the end leaves the connection as it
is, so that what was still pending is not sent. -/
def converse (w : Surroundings σ) (i : Invocation) (c : Config) (s : σ) (link : Link) :
    Finish :=
  let report := sessionOver w i c s link
  let soFar : Finish :=
    { status := 1
      output := w.output s ++ outputOf report.events
      errors := w.errors s ++ errorsOf report.events
      sent := some (link.server, report.session.buffer.taken) }
  match report.result with
  | .ok outcome => { soFar with status := outcome.exitStatus }
  | .error error =>
    fail (w.replace s) c report.stderr soFar (heldBack report.events).length (some error)

/-- Find a server for this configuration, and use it. -/
def connect (w : Surroundings σ) (i : Invocation) (c : Config) : Finish :=
  let soFar (s : σ) : Finish := { status := 1, output := w.output s, errors := w.errors s }
  let fails (s : σ) (soFar : Finish) (error : Option ClientError) : Finish :=
    fail (w.replace s) c (w.stderr s) soFar 0 error
  match Search.establish (w.seeker c) c { state := w.start } with
  | .error error s =>
    match w.brokenOff s.state with
    | none => fails s.state (soFar s.state) (some error)
    | some unprinted =>
      { soFar s.state with status := brokenOffStatus, unwritten := some unprinted }
  | .ok .unavailable s => fails s.state (soFar s.state) none
  | .ok (.connected link) s =>
    match i.directory with
    | .ok _ => converse w i c s.state link
    | .error error =>
      fails s.state { soFar s.state with sent := some (link.server, []) }
        (some (.workingDirectory error))

/-- Whether a command line asks for nothing. -/
def asksNothing (options : Options) : Bool :=
  options.items = [] && !options.eval && !options.createFrame

/-- The directory from which file names are understood. -/
def workingDirectory (i : Invocation) : Bytes :=
  match i.directory with
  | .ok directory => directory
  | .error _ => [Bytes.slash]

/-- Run the program in these surroundings. -/
def runIn (w : Surroundings σ) (i : Invocation) : Finish :=
  let program := programName i
  let stdout := w.stdout w.start
  let stderr := w.stderr w.start
  match Options.parse i.args with
  | .error error => misuse stderr program error.message
  | .ok options =>
    if options.showVersion then inform stdout stderr "failed to print version" version
    else if options.showHelp then inform stdout stderr "failed to print usage" (usage program)
    else if asksNothing options then misuse stderr program "file name or argument required"
    else
      match Config.resolve program options i.env (workingDirectory i) with
      | .error error => tellLast stderr (complaint program error.message) { status := 1 }
      | .ok c => connect w i c

/-- A machine as surroundings, for a program with this environment and these standard
streams. There is no terminal. -/
def ofMachine (m : Machine) (env : Environment) (out err : Sink) : Surroundings Visit where
  seeker c := Visit.seeker c (launch env)
  start := { machine := m, out, err }
  output v := v.output
  errors v := v.messages.reverse.flatMap Message.bytes
  replace v := v.machine.run env
  platform := { terminal := fun _ => Terminal.ofEnvironment none env }
  stdout v := v.out
  stderr v := v.err
  brokenOff v := v.brokenOff

/-- Run the program on a machine, with streams that take everything. -/
def run (m : Machine) (i : Invocation) : Finish := runIn (ofMachine m i.env {} {}) i

end CommandLine

end EditorClient
