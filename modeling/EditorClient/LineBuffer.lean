/-
# Line buffering

Standard output of the program passes on whole lines. What follows the last line
end is held back until a line end comes, until it is flushed, or until there is
no room for more. A process that is replaced by another program loses what it
holds back; one that ends passes it on.
-/

import EditorClient.Bytes

namespace EditorClient.LineBuffer

/-- How many bytes can be held back. -/
def capacity : Nat := 1024

/-- What is held back when bytes without a line end follow what is held. -/
def hold (held bytes : Bytes) : Bytes :=
  if capacity ≤ bytes.length then []
  else if held.length + bytes.length ≤ capacity then held ++ bytes
  else bytes

/-- What is held back after bytes were written. -/
def write (held bytes : Bytes) : Bytes :=
  if bytes.contains Bytes.newline then
    hold [] ((Pieces.split Bytes.newline bytes).getLastD [])
  else hold held bytes

end EditorClient.LineBuffer
