/-
# Job control

While a frame is open on our terminal, signals that concern the terminal matter
to the server too. A change of the window's size is passed on to the server's
process. Before this process stops, the server is told to let go of the
terminal, and after it was continued in the foreground, that it may draw again.
A process that was continued in the background, with a frame on the terminal,
stops again together with its group.

`intent` decides what a signal means, and `Bridge.handle` carries it out.
-/

import EditorClient.Request
import EditorClient.SendBuffer

namespace EditorClient

/-- The number of a signal. -/
abbrev Signal := Int

namespace Signal

/-- The process was continued. -/
@[match_pattern] abbrev continued : Signal := 18

/-- The user asked at the terminal to stop. -/
@[match_pattern] abbrev terminalStop : Signal := 20

/-- The process wrote to the terminal from the background. -/
@[match_pattern] abbrev backgroundWrite : Signal := 22

/-- The size of the window changed. -/
@[match_pattern] abbrev windowChanged : Signal := 28

end Signal

/-- Whether our process group owns the terminal. -/
inductive Foreground
  | yes
  | no
  /-- There is no terminal. -/
  | unknown
  deriving DecidableEq, Repr

/-- What a signal means for the server and for us. -/
inductive Intent
  /-- Pass the signal on to the server. -/
  | forward (signal : Signal)
  /-- Tell the server that it may draw again. -/
  | resume
  /-- Stop the whole process group again. -/
  | stopGroup
  /-- Tell the server that we go, and stop as the signal asks. -/
  | suspend (signal : Signal)
  | ignore
  deriving DecidableEq, Repr

/-- What a signal means. `onTerminal` says whether the frame is on our terminal. -/
def intent (signal : Signal) (foreground : Foreground) (onTerminal : Bool) : Intent :=
  if signal = Signal.windowChanged then .forward signal
  else if signal = Signal.continued then
    match foreground with
    | .yes => .resume
    | .no => if onTerminal then .stopGroup else .ignore
    | .unknown => .ignore
  else if signal = Signal.terminalStop ∨ signal = Signal.backgroundWrite then
    .suspend signal
  else .ignore

/-- A request to the operating system to deliver a signal. -/
inductive JobCall
  /-- Send a signal to the server. -/
  | forward (pid : Int32) (signal : Signal)
  /-- Stop our process group. -/
  | stopGroup
  /-- Stop this process as the signal asks, until it is continued. -/
  | stopSelf (signal : Signal)
  deriving DecidableEq, Repr

/-- The process number of the server, if one is known to which a signal can be
sent. A number that is not positive stands for a group or for everyone. -/
def knownPid (pid : Int32) : Option Int32 := if 0 < pid then some pid else none

/-- What the bridge between signals and server sees when a signal arrives. -/
structure Bridge where
  foreground : Foreground
  onTerminal : Bool
  /-- The process number that the server last gave, 0 before that. -/
  pid : Int32
  /-- How the operating system fails on a call, if it does. -/
  fails : JobCall → Option IoError := fun _ => none

namespace Bridge

/-- Something that the bridge does about a signal. -/
inductive Effect
  /-- It hands a line to the send buffer. -/
  | tell (line : Bytes)
  /-- It asks the operating system to deliver a signal. -/
  | call (call : JobCall)
  deriving DecidableEq, Repr

/-- An effect that was tried, and the error with which it failed, if it did. -/
structure Tried where
  effect : Effect
  error : Option IoError := none
  deriving DecidableEq, Repr

/-- What came of a signal: the intent or an error, the buffer, and what was tried, in
order. -/
structure Handled where
  result : Except IoError Intent
  buffer : SendBuffer
  tried : List Tried

/-- The call that an effect is, if it is one. -/
def Effect.call? : Effect → Option JobCall
  | .tell _ => none
  | .call made => some made

/-- The calls that were made, in order. -/
def Handled.calls (h : Handled) : List JobCall := h.tried.filterMap (·.effect.call?)

/-- Carry out a single call. -/
def callOnly (b : Bridge) (intent : Intent) (buffer : SendBuffer) (call : JobCall) : Handled :=
  match b.fails call with
  | none => ⟨.ok intent, buffer, [⟨.call call, none⟩]⟩
  | some error => ⟨.error error, buffer, [⟨.call call, some error⟩]⟩

/-- Act on a signal. On the way to a stop the server is told first, and the stop
follows even if the server could not be told. -/
def handle (b : Bridge) (signal : Signal) (buffer : SendBuffer) : Handled :=
  let meaning := intent signal b.foreground b.onTerminal
  match meaning with
  | .ignore => ⟨.ok meaning, buffer, []⟩
  | .stopGroup => b.callOnly meaning buffer .stopGroup
  | .forward signal =>
    match knownPid b.pid with
    | none => ⟨.ok meaning, buffer, []⟩
    | some pid => b.callOnly meaning buffer (.forward pid signal)
  | .resume =>
    match SendBuffer.send resumeLine buffer with
    | .ok _ buffer => ⟨.ok meaning, buffer, [⟨.tell resumeLine, none⟩]⟩
    | .error error buffer => ⟨.error error, buffer, [⟨.tell resumeLine, some error⟩]⟩
  | .suspend signal =>
    match SendBuffer.send suspendLine buffer with
    | .ok _ buffer =>
      let stopped := b.callOnly meaning buffer (.stopSelf signal)
      { stopped with tried := ⟨.tell suspendLine, none⟩ :: stopped.tried }
    | .error error buffer =>
      let failure := b.fails (.stopSelf signal)
      ⟨.error (failure.getD error), buffer,
        [⟨.tell suspendLine, some error⟩, ⟨.call (.stopSelf signal), failure⟩]⟩

end Bridge

end EditorClient
