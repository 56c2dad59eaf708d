/-
# Where the frame opens

A target says on which display the server is to open a frame, or that it is to
open it on our terminal. When the server cannot use the window system, the
target falls back: to the alternate display the first time, if there is one, and
to the terminal from then on.
-/

import EditorClient.Config

namespace EditorClient

/-- Where the server is asked to open its frame. -/
structure FrameTarget where
  display : Option String
  altDisplay : Option String
  terminal : Bool
  noWait : Bool
  deriving DecidableEq, Repr

namespace FrameTarget

/-- The target that the configuration asks for. -/
def ofConfig (c : Config) : FrameTarget where
  display := c.display
  altDisplay := c.altDisplay
  terminal := c.terminal
  noWait := c.noWait

/-- The target to try when the server cannot use the window system. Once it is
the terminal, the client has to stay, so it waits. -/
def fallBack (t : FrameTarget) : FrameTarget :=
  match t.altDisplay with
  | some display => { t with display := some display, altDisplay := none }
  | none => { t with noWait := false, terminal := true }

/-- The target after falling back a number of times. -/
def fallBackTimes : Nat → FrameTarget → FrameTarget
  | 0, t => t
  | n + 1, t => fallBackTimes n t.fallBack

end FrameTarget

end EditorClient
