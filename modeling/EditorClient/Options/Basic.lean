/-
# Options

What the user asked for on the command line, before the environment is looked
at. Options that are merely given are switches; those that carry a value are
settings.

Options form a monoid: `x ++ y` is what a command line says that gives `x` first
and `y` after it. Switches accumulate, a later value replaces an earlier one, and
items follow each other. Reading a command line is joining what each argument
says.
-/

import EditorClient.Number.Duration
import EditorClient.Text.Utf8

namespace EditorClient

/-- What is wrong with a command line. -/
inductive OptionError
  | unknown (option : String)
  | missingValue (option : String)
  | unexpectedValue (option : String)
  | invalidTimeout (text : String)
  deriving DecidableEq, Repr

namespace OptionError

/-- The wording of an error in a command line. -/
def message : OptionError → String
  | .unknown option => "unrecognized option '" ++ option ++ "'"
  | .missingValue option => "option '" ++ option ++ "' requires an argument"
  | .unexpectedValue option => "option '" ++ option ++ "' doesn't allow an argument"
  | .invalidTimeout text => "invalid timeout '" ++ text ++ "'"

end OptionError

/-- An option without a value. -/
inductive Switch
  | noWait | quiet | suppressOutput | eval | help | version | terminal | createFrame
  deriving DecidableEq, Repr

/-- An option with a value. -/
inductive Setting
  | alternateEditor | frameParameters | socketName | serverFile
  | display | parentId | tramp | timeout
  deriving DecidableEq, Repr

/-- What a command line says. Names of sockets and files and the items are kept
as bytes, since they need not be text. -/
structure Options where
  noWait : Bool := false
  quiet : Bool := false
  suppressOutput : Bool := false
  eval : Bool := false
  showHelp : Bool := false
  showVersion : Bool := false
  terminal : Bool := false
  createFrame : Bool := false
  alternateEditor : Option String := none
  frameParameters : Option String := none
  socketName : Option Bytes := none
  serverFile : Option Bytes := none
  display : Option String := none
  parentId : Option String := none
  tramp : Option String := none
  timeout : Option Duration := none
  items : List Bytes := []
  deriving DecidableEq, Repr

namespace Options

/-- What two command lines say, the second given after the first. -/
def join (x y : Options) : Options where
  noWait := x.noWait || y.noWait
  quiet := x.quiet || y.quiet
  suppressOutput := x.suppressOutput || y.suppressOutput
  eval := x.eval || y.eval
  showHelp := x.showHelp || y.showHelp
  showVersion := x.showVersion || y.showVersion
  terminal := x.terminal || y.terminal
  createFrame := x.createFrame || y.createFrame
  alternateEditor := y.alternateEditor.or x.alternateEditor
  frameParameters := y.frameParameters.or x.frameParameters
  socketName := y.socketName.or x.socketName
  serverFile := y.serverFile.or x.serverFile
  display := y.display.or x.display
  parentId := y.parentId.or x.parentId
  tramp := y.tramp.or x.tramp
  timeout := y.timeout.or x.timeout
  items := x.items ++ y.items

instance : Append Options := ⟨join⟩

/-- What a single item says. -/
def ofItem (item : Bytes) : Options := { items := [item] }

/-- What a switch says. A frame on the terminal is a new frame. -/
def ofSwitch : Switch → Options
  | .noWait => { noWait := true }
  | .quiet => { quiet := true }
  | .suppressOutput => { suppressOutput := true }
  | .eval => { eval := true }
  | .help => { showHelp := true }
  | .version => { showVersion := true }
  | .terminal => { terminal := true, createFrame := true }
  | .createFrame => { createFrame := true }

/-- What several switches say together. -/
def ofSwitches (switches : List Switch) : Options :=
  switches.foldr (fun s o => ofSwitch s ++ o) {}

/-- What a setting says with a value. A parent window is for a new frame. -/
def ofSetting (setting : Setting) (value : Bytes) : Except OptionError Options :=
  let text := Utf8.lossy value
  match setting with
  | .alternateEditor => .ok { alternateEditor := some text }
  | .frameParameters => .ok { frameParameters := some text }
  | .socketName => .ok { socketName := some value }
  | .serverFile => .ok { serverFile := some value }
  | .display => .ok { display := some text }
  | .parentId => .ok { parentId := some text, createFrame := true }
  | .tramp => .ok { tramp := some text }
  | .timeout =>
    match Duration.read? text with
    | some t => .ok { timeout := some t }
    | none => .error (.invalidTimeout text)

end Options

end EditorClient
