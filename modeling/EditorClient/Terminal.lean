/-
# The terminal

A request may name our terminal and its type, so that the server can open a
frame on it. A terminal that is a buffer of the editor itself is refused, since
such a frame would lock up the editor's keyboard.
-/

import EditorClient.Environment

namespace EditorClient

/-- What the server has to know of our terminal. -/
structure Terminal where
  name : Bytes
  type : String
  deriving DecidableEq, Repr

/-- Why there is no terminal to offer. -/
inductive TerminalError
  | noName
  | noType
  | insideBuffer
  deriving DecidableEq, Repr

/-- The wording of a reason. -/
def TerminalError.message : TerminalError → String
  | .noName => "could not get terminal name"
  | .noType => "please set the TERM variable to your terminal type"
  | .insideBuffer => "opening a frame in an Emacs term buffer is not supported"

namespace Terminal

/-- Whether `part` occurs in `whole` without a gap. -/
def occurs (part : List Char) : (whole : List Char) → Bool
  | [] => part.isEmpty
  | c :: rest => part.isPrefixOf (c :: rest) || occurs part rest

/-- The terminal with this name and type, unless the mark that the editor puts
into the environment of its own terminals says that it is one of those. -/
def check (name : Option Bytes) (type mark : Option String) :
    Except TerminalError Terminal :=
  match name, type with
  | none, _ => .error .noName
  | _, none => .error .noType
  | some name, some type =>
    let marked := mark.any fun m => occurs ",term:".toList m.toList
    if marked ∧ "eterm".toList.isPrefixOf type.toList then .error .insideBuffer
    else .ok ⟨name, type⟩

/-- The terminal with this name in this environment. -/
def ofEnvironment (name : Option Bytes) (env : Environment) :
    Except TerminalError Terminal :=
  check name (env.getText? "TERM") (env.getText? "INSIDE_EMACS")

end Terminal

end EditorClient
