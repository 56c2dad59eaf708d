/-
# Building a request

A request has two parts. The opening tells the server about the environment, for
new frames only, and the directory. It is sent once. The body says where the
frame opens and what to do in it. It is built again when the server cannot use
the window system that it was asked to use.
-/

import EditorClient.Error
import EditorClient.Request
import EditorClient.Request.Frame
import EditorClient.Request.Item
import EditorClient.Terminal

namespace EditorClient

namespace Directive

/-- A directive without arguments. -/
def bare (name : String) : Directive := ⟨name, []⟩

/-- A directive with one argument. -/
def single (name : String) (arg : Bytes) : Directive := ⟨name, [arg]⟩

/-- A directive with a text as its argument, if there is one. -/
def optional (name : String) (arg : Option String) : List Directive :=
  (arg.map fun a => single name (Bytes.ofText a)).toList

/-- A directive, if a condition holds. -/
def onlyIf (condition : Bool) (d : Directive) : List Directive :=
  if condition then [d] else []

end Directive

namespace Request

open Directive

/-- What stands before the directory and before absolute file names. -/
def remoteLead (c : Config) : Bytes := (c.tramp.map Bytes.ofText).getD []

/-- A directory with a slash at its end. -/
def withFinalSlash (directory : Bytes) : Bytes :=
  if directory.getLast? = some Bytes.slash then directory
  else directory ++ [Bytes.slash]

/-- The part of a request that is sent only once. -/
def opening (c : Config) : Request :=
  (if c.createFrame then c.env.entries.map (single "env") else []) ++
    [single "dir" (withFinalSlash (remoteLead c ++ c.directory))]

/-- The directive for an item. Only absolute file names are made remote. -/
def ofItem (c : Config) : Item → Directive
  | .expression source => single "eval" source
  | .position text => single "position" text
  | .file path =>
    if path.head? = some Bytes.slash then single "file" (remoteLead c ++ path)
    else single "file" path

/-- The directive that offers our terminal. There is none if the request is not
about a frame, or if there is no terminal and the frame can open elsewhere. -/
def terminalPart (c : Config) (t : FrameTarget)
    (terminal : Except TerminalError Terminal) : Except ClientError Request :=
  if c.wantsTerminal then
    match terminal with
    | .ok info => .ok [⟨"tty", [info.name, Bytes.ofText info.type]⟩]
    | .error reason => if t.terminal then .error (.terminal reason.message) else .ok []
  else .ok []

/-- The part of a request that depends on the target. -/
def body (c : Config) (t : FrameTarget) (items : List Item)
    (terminal : Except TerminalError Terminal) : Except ClientError Request := do
  let offer ← terminalPart c t terminal
  return onlyIf t.noWait (bare "nowait") ++
    onlyIf (!c.createFrame) (bare "current-frame") ++
    optional "display" t.display ++
    optional "parent-id" c.parentId ++
    optional "frame-parameters" (if c.createFrame then c.frameParameters else none) ++
    offer ++
    onlyIf (c.createFrame && !t.terminal) (bare "window-system") ++
    items.map (ofItem c)

/-- Whether a request offers our terminal to the server. -/
def offersTerminal (r : Request) : Bool := r.any fun d => d.name = "tty"

end Request

end EditorClient
