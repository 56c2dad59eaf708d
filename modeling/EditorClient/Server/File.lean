/-
# Server files

A server that listens on the network leaves a file with its address on the first
line and, right after that line, a secret of 64 bytes that proves to the server
that its client may read the file.

Only the first 31 bytes are looked at for the first line. Where they hold no
newline, all of them count as the line and the secret is what follows.
-/

import EditorClient.Error
import EditorClient.Server.Address
import EditorClient.Text.Blank

namespace EditorClient

/-- What a server file says. -/
structure ServerFile where
  address : Address
  token : Bytes
  deriving DecidableEq, Repr

namespace ServerFile

/-- How many bytes the secret has. -/
def tokenLength : Nat := 64

/-- How many bytes are looked at for the first line. -/
def lineLimit : Nat := 31

/-- The error of a file without an address. -/
def noAddress : ClientError := .protocolViolation "invalid configuration info"

/-- The error of a file without a complete secret. -/
def noToken : ClientError := .protocolViolation "cannot read authentication info"

/-- A blank of ASCII, the only blanks that may stand before the number of the
service. -/
def isAsciiBlank (b : UInt8) : Bool :=
  b = 32 || b = 9 || b = 10 || b = 12 || b = 13

/-- How many bytes the first line has, with its newline. -/
def lineLength (bytes : Bytes) : Nat :=
  let window := bytes.take lineLimit
  match Pieces.cut Bytes.newline window with
  | (line, some _) => line.length + 1
  | (_, none) => window.length

/-- The number of the service at the start of a text, after blanks. What follows
it is ignored. -/
def service? (text : Bytes) : Option UInt16 := do
  let digits := (text.dropWhile isAsciiBlank).takeWhile Bytes.isDigit
  let number ← Decimal.natural? (digits.map fun b => Char.ofNat b.toNat)
  if number < UInt16.size then some number.toUInt16 else none

/-- The address on the first line: a host, a colon and the number of a service. -/
def address? (line : Bytes) : Option Address :=
  match Pieces.cut Bytes.colon line with
  | (_, none) => none
  | (host, some rest) => do
    let text ← Utf8.strict? host
    let ip ← Ipv4.read? (Blank.trim text.toList)
    return ⟨ip, ← service? rest⟩

/-- What the bytes of a server file say. A bad address is reported before a
missing secret. -/
def parse (bytes : Bytes) : Except ClientError ServerFile :=
  let length := lineLength bytes
  match address? (bytes.take length) with
  | none => .error noAddress
  | some address =>
    let token := (bytes.drop length).take tokenLength
    if token.length = tokenLength then .ok ⟨address, token⟩ else .error noToken

end ServerFile

end EditorClient
