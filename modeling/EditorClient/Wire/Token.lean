/-
# Tokens

On the wire a value is one token: it holds no space and no newline, and it does
not begin with a dash, since the server would take such a token for the name of
a directive. `escape` writes a value as a token and `unescape` reads it back;
`escapeInto` writes the token at the end of a buffer.

| in the value     | in the token |
|------------------|--------------|
| space            | ampersand, `_` |
| newline          | ampersand, `n` |
| ampersand        | ampersand, ampersand |
| a leading dash   | ampersand, dash |
-/

import EditorClient.Bytes

namespace EditorClient.Token

open Bytes

/-- The letter that stands for a space after an ampersand. -/
@[match_pattern] abbrev spaceMark : UInt8 := 95

/-- The letter that stands for a newline after an ampersand. -/
@[match_pattern] abbrev newlineMark : UInt8 := 110

/-- How a byte is written where a dash needs no quoting. -/
def escapeByte (b : UInt8) : Bytes :=
  if b = space then [ampersand, spaceMark]
  else if b = newline then [ampersand, newlineMark]
  else if b = ampersand then [ampersand, ampersand]
  else [b]

/-- How the first byte of a value is written. -/
def escapeFirst (b : UInt8) : Bytes :=
  if b = dash then [ampersand, dash] else escapeByte b

/-- A value as one token. -/
def escape : Bytes → Bytes
  | [] => []
  | b :: rest => escapeFirst b ++ rest.flatMap escapeByte

/-- How the byte at this place of a value is written. -/
def escapeAt (place : Nat) (b : UInt8) : Bytes :=
  if place = 0 then escapeFirst b else escapeByte b

/-- Append a value to a buffer as one token, byte by byte. A dash is marked for its
place in the value, wherever the buffer ends. -/
def escapeInto (value : Bytes) (buffer : Array UInt8) : Array UInt8 :=
  value.zipIdx.foldl (fun written b => written ++ escapeAt b.2 b.1) buffer

/-- The byte that a marked letter stands for. -/
def unmark (b : UInt8) : UInt8 :=
  if b = spaceMark then space else if b = newlineMark then newline else b

/-- The value of a token. A mark before any other byte is dropped, and so is a
mark at the end. -/
def unescape : Bytes → Bytes
  | [] => []
  | [b] => if b = ampersand then [] else [b]
  | b :: c :: rest =>
    if b = ampersand then unmark c :: unescape rest else b :: unescape (c :: rest)

end EditorClient.Token
