/-
# The program

The outermost layer: it looks at the process and at the server file that the
client would read, runs the client on the machine that it has seen, and writes
what the run leaves behind. Files and standard streams are all that this layer
reaches, so the machine that it sees has no listening servers and no programs.
-/

import EditorClient.CommandLine

open EditorClient

/-- The bytes of a file, or nothing if it cannot be read. -/
def readBytes (path : String) : IO Bytes := do
  try return (← IO.FS.readBinFile path).toList
  catch _ => return []

/-- The environment of the process. -/
def readEnvironment : IO Environment := do
  let entries := (Pieces.split 0 (← readBytes "/proc/self/environ")).filter (· ≠ [])
  return ⟨entries.map fun entry =>
    let parts := Pieces.cut Bytes.equals entry
    (parts.1, parts.2.getD [])⟩

/-- The effective user, as the second number on the line that the kernel keeps. -/
def readUser : IO UserId := do
  let lines := Pieces.split Bytes.newline (← readBytes "/proc/self/status")
  let found := lines.findSome? fun line => Bytes.after? (Bytes.ofText "Uid:\t") line
  let fields := Pieces.split 9 (found.getD [])
  let digits := (fields.getD 1 []).map fun b => Char.ofNat b.toNat
  return ((Decimal.natural? digits).getD 0).toUInt32

/-- The machine with the server file that the client might read. -/
def readMachine (i : Invocation) (user : UserId) : IO Machine := do
  let empty : Machine := { user, owner := user }
  match Options.parse i.args with
  | .error _ => return empty
  | .ok options =>
    match Config.resolve (CommandLine.programName i) options i.env [] with
    | .error _ => return empty
    | .ok c =>
      (Candidate.all c).foldlM (fun m candidate => do
        match m.host.serverFilePath i.env candidate.name, candidate.isSocket with
        | some path, false =>
          let content ← readBytes (Utf8.lossy path)
          return if content = [] then m else m.create path (.file content)
        | _, _ => return m) empty

/-- Whether the client reads standard input. -/
def readsInput (args : List Bytes) : Bool :=
  match Options.parse args with
  | .ok options => options.eval && options.items = []
  | .error _ => false

/-- All that is left of a stream, after the portions that were read before. -/
partial def readStream (stream : IO.FS.Stream) (before : List ByteArray) : IO Bytes := do
  let portion ← stream.read 65536
  if portion.isEmpty then return before.reverse.flatMap ByteArray.toList
  else readStream stream (portion :: before)

def main (args : List String) : IO UInt32 := do
  let args := args.map Bytes.ofText
  let input ← if readsInput args then readStream (← IO.getStdin) [] else pure []
  let invocation : Invocation := {
    program := Bytes.ofText "edclient"
    args, input
    env := ← readEnvironment
    directory := .ok (Bytes.ofText (← IO.currentDir).toString) }
  let finish := CommandLine.run (← readMachine invocation (← readUser)) invocation
  (← IO.getStdout).write (ByteArray.mk finish.output.toArray)
  (← IO.getStdout).flush
  (← IO.getStderr).write (ByteArray.mk finish.errors.toArray)
  return finish.status.toUInt32
