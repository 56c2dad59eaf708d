/-
# Configuration

What the client goes by, fixed once before it does anything: the options, with
the environment standing in for those that were not given, and the display
settled.

A new frame opens on the display that was asked for, else on the one that the
environment names, else on the terminal. An empty name of a display is none.
-/

import EditorClient.Environment
import EditorClient.Options.Basic
import EditorClient.Options.Usage

namespace EditorClient

/-- What the client goes by. -/
structure Config where
  /-- The name of the program in messages. -/
  program : String
  noWait : Bool
  quiet : Bool
  suppressOutput : Bool
  eval : Bool
  createFrame : Bool
  /-- The new frame opens on the terminal. -/
  terminal : Bool
  display : Option String
  /-- The display to use where the server cannot use `display`. -/
  altDisplay : Option String
  parentId : Option String
  frameParameters : Option String
  /-- What stands before the directory and before absolute file names. -/
  tramp : Option String
  socketName : Option Bytes
  serverFile : Option Bytes
  /-- What to run where no server is found. An empty command starts a server. -/
  alternateEditor : Option String
  /-- How long to wait for the server; without it, for ever. -/
  timeout : Option Duration
  directory : Bytes
  items : List Bytes
  env : Environment
  deriving DecidableEq, Repr

namespace Config

/-- The timeout that the environment asks for. An empty value asks for none. -/
def timeoutOf (env : Environment) : Except OptionError (Option Duration) :=
  match env.getText? timeoutVariable with
  | none | some "" => .ok none
  | some text =>
    match Duration.read? text with
    | some t => .ok (some t)
    | none => .error (.invalidTimeout text)

/-- The display that the options and the environment lead to. The environment
counts only for a new frame that is not asked for on the terminal. -/
def displayOf (options : Options) (env : Environment) : Option String :=
  let named :=
    if options.createFrame ∧ ¬ options.terminal then
      options.display.or (env.getText? "DISPLAY")
    else options.display
  named.filter (· ≠ "")

/-- The configuration for these options in this environment and directory. -/
def resolve (program : String) (options : Options) (env : Environment)
    (directory : Bytes) : Except OptionError Config := do
  let timeout ←
    match options.timeout with
    | some t => pure (some t)
    | none => timeoutOf env
  let display := displayOf options env
  return {
    program, timeout, display, directory, env
    noWait := options.noWait
    quiet := options.quiet
    suppressOutput := options.suppressOutput
    eval := options.eval
    createFrame := options.createFrame
    terminal := options.terminal || (options.createFrame && display.isNone)
    altDisplay := none
    parentId := options.parentId
    frameParameters := options.frameParameters
    tramp := options.tramp.or (env.getText? "EMACSCLIENT_TRAMP")
    socketName := options.socketName.or (env.get? "EMACS_SOCKET_NAME")
    serverFile := options.serverFile.or (env.get? "EMACS_SERVER_FILE")
    alternateEditor := options.alternateEditor.or (env.getText? "ALTERNATE_EDITOR")
    items := options.items }

/-- Whether to start a server where none is found. -/
def launchesDaemon (c : Config) : Bool := c.alternateEditor = some ""

/-- Whether there is something to do where no server is found. -/
def hasFallback (c : Config) : Bool := c.alternateEditor.isSome

/-- Whether a request may tell the server about our terminal. -/
def wantsTerminal (c : Config) : Bool := c.createFrame || !c.eval

end Config

end EditorClient
