/-
# Errors

Every way in which the client can fail is a constructor, and the wording that
the user sees is a function of it.

A `TransportError` is about one place where a server might be: the search for a
server goes on with the next place. A `ClientError` ends the run with status 1.
-/

import EditorClient.Text.Utf8

namespace EditorClient

/-- The kinds of system errors between which the client tells a difference. -/
inductive IoKind
  | notFound
  | brokenPipe
  | writeZero
  | timedOut
  | other
  deriving DecidableEq, Repr

/-- A failed operation of the operating system: its kind and its wording. -/
structure IoError where
  kind : IoKind
  text : String
  deriving DecidableEq, Repr

namespace IoError

/-- An error of the operating system with its number. -/
def numbered (kind : IoKind) (text : String) (number : Nat) : IoError :=
  ⟨kind, text ++ " (os error " ++ toString number ++ ")"⟩

def noSuchFile : IoError := numbered .notFound "No such file or directory" 2
def timeout : IoError := numbered .timedOut "Resource temporarily unavailable" 11
def permissionDenied : IoError := numbered .other "Permission denied" 13
def notADirectory : IoError := numbered .other "Not a directory" 20
def isADirectory : IoError := numbered .other "Is a directory" 21
def brokenPipe : IoError := numbered .brokenPipe "Broken pipe" 32
def nameTooLong : IoError := numbered .other "File name too long" 36
def tooManyLinks : IoError := numbered .other "Too many levels of symbolic links" 40
def networkUnreachable : IoError := numbered .other "Network is unreachable" 101
def connectionReset : IoError := numbered .other "Connection reset by peer" 104
def connectionRefused : IoError := numbered .other "Connection refused" 111

/-- A file cannot be looked at under a name that holds a zero byte. -/
def zeroByteInName : IoError := ⟨.other, "file name contained an unexpected NUL byte"⟩

/-- A program cannot be given a word that holds a zero byte. -/
def zeroByteInCommand : IoError := ⟨.other, "nul byte found in provided data"⟩

/-- A command without words names no program. -/
def emptyCommand : IoError := ⟨.other, "empty command"⟩

/-- A socket cannot wait for no time at all. -/
def zeroTimeout : IoError := ⟨.other, "cannot set a 0 duration timeout"⟩

/-- The other side takes no more bytes and reports no error. -/
def wroteNothing : IoError := ⟨.writeZero, "server stopped accepting data"⟩

end IoError

/-- Why one place could not be used to reach a server. -/
inductive TransportError
  /-- Something is there and does not accept the connection. -/
  | refused (cause : IoError)
  /-- Nothing is there. -/
  | unreachable
  /-- It cannot be told whether something is there. -/
  | inaccessible (path : Bytes) (cause : IoError)
  /-- What is there belongs to another user. -/
  | foreignOwner
  /-- The path does not fit into the address of a local socket. -/
  | nameTooLong (path : Bytes)
  deriving DecidableEq, Repr

namespace TransportError

/-- Whether there is nothing at the place, as opposed to something that cannot
be reached or trusted. -/
def isAbsent : TransportError → Bool
  | .unreachable => true
  | _ => false

/-- The wording of an error about one place. -/
def message : TransportError → String
  | .refused cause => "connect: " ++ cause.text
  | .unreachable =>
    "can't find socket; have you started the server?\n" ++
      "To start the server in Emacs, type \"M-x server-start\"."
  | .inaccessible path cause => "can't stat " ++ Utf8.lossy path ++ ": " ++ cause.text
  | .foreignOwner => "Invalid socket owner"
  | .nameTooLong path => "socket-name " ++ Utf8.lossy path ++ " too long"

end TransportError

/-- Why the client gives up. -/
inductive ClientError
  /-- A place that could not be used, where no other is left to try. -/
  | transport (error : TransportError)
  /-- The socket that was asked for cannot be used. -/
  | socketAccess (name : Bytes)
  /-- The server file that was asked for cannot be used. -/
  | serverFileAccess (name : Bytes)
  /-- No server was found, and nothing says what to do then. -/
  | noTransport
  /-- A server file that is not one. -/
  | protocolViolation (text : String)
  /-- The server could not be started. -/
  | daemonLaunch (cause : IoError)
  /-- The server was started and still cannot be reached. -/
  | daemonUnreachable
  /-- The current directory is not known. -/
  | workingDirectory (cause : IoError)
  /-- A frame on the terminal was asked for, and there is no suitable one. -/
  | terminal (reason : String)
  /-- The alternate editor could not be run. -/
  | alternateEditor (editor : String) (cause : IoError)
  /-- The server has sent nothing for as long as the user wants to wait. -/
  | timeout
  /-- An operation on an open connection or on the output failed. -/
  | io (context : String) (cause : IoError)
  deriving DecidableEq, Repr

namespace ClientError

/-- The wording of an error that ends the run. -/
def message : ClientError → String
  | .transport e => e.message
  | .socketAccess name => "error accessing socket \"" ++ Utf8.lossy name ++ "\""
  | .serverFileAccess name => "error accessing server file \"" ++ Utf8.lossy name ++ "\""
  | .noTransport =>
    "No socket or alternate editor.  Please use:\n\n" ++
      "\t--socket-name\n" ++
      "\t--server-file      (or environment variable EMACS_SERVER_FILE)\n" ++
      "\t--alternate-editor (or environment variable ALTERNATE_EDITOR)"
  | .protocolViolation text => text
  | .daemonLaunch _ => "Error: Could not start the Emacs daemon"
  | .daemonUnreachable => "Error: Cannot connect even after starting the Emacs daemon"
  | .workingDirectory _ => "Cannot get current working directory"
  | .terminal reason => reason
  | .alternateEditor editor _ => "error executing alternate editor \"" ++ editor ++ "\""
  | .timeout => "timed out waiting for the server"
  | .io context cause => context ++ ": " ++ cause.text

/-- The status with which an error ends the run. -/
def exitStatus (_ : ClientError) : Nat := 1

end ClientError

end EditorClient
