/-
# Help

The text that `--help` prints.
-/

namespace EditorClient

/-- The variable that gives a timeout where no option does. -/
def timeoutVariable : String := "EDCLIENT_TIMEOUT"

/-- The help text of a program that was called by this name. -/
def usage (program : String) : String :=
  "Usage: " ++ program ++ " [OPTIONS] FILE...
Tell the Emacs server to visit the specified files.
Every FILE can be either just a FILENAME or [+LINE[:COLUMN]] FILENAME.

The following OPTIONS are accepted:
-V, --version           Just print version info and return
-H, --help              Print this usage information message
-nw, -t, --tty          Open a new Emacs frame on the current terminal
-c, --create-frame      Create a new frame instead of trying to
                        use the current Emacs frame
-F ALIST, --frame-parameters=ALIST
                        Set the parameters of a new frame
-e, --eval              Evaluate the FILE arguments as ELisp expressions
-n, --no-wait           Don't wait for the server to return
-q, --quiet             Don't display messages on success
-u, --suppress-output   Don't display return values from the server
-d DISPLAY, --display=DISPLAY
                        Visit the file in the given display
--parent-id=ID          Open in parent window ID, via XEmbed
-s SOCKET, --socket-name=SOCKET
                        Set filename of the UNIX socket for communication
-f SERVER, --server-file=SERVER
                        Set filename of the TCP authentication file
-a EDITOR, --alternate-editor=EDITOR
                        Editor to fallback to if the server is not running
                        If EDITOR is the empty string, start Emacs in daemon
                        mode and try connecting again
-T PREFIX, --tramp=PREFIX
                        PREFIX to prepend to filenames sent to the server
                        for locating files remotely via Tramp
-w SECS, --timeout=SECS
                        Give up if the server sends nothing for SECS seconds
                        (also " ++ timeoutVariable ++ ")\n"

end EditorClient
