/-
# Quoted names

How a name that need not be text is shown in diagnostics: between double quotes,
with characters that cannot be told apart by eye written as escapes and with
every byte that is not part of a character in hexadecimal.
-/

import EditorClient.Text.Hidden
import EditorClient.Text.Utf8

namespace EditorClient.Quoted

/-- A hexadecimal digit with a capital letter. -/
def hexDigit (n : Nat) : Char := Char.ofNat (if n < 10 then 48 + n else 55 + n)

/-- A character as it is shown. -/
def showChar (c : Char) : List Char :=
  match c with
  | '\x00' => ['\\', '0']
  | '\t' => ['\\', 't']
  | '\r' => ['\\', 'r']
  | '\n' => ['\\', 'n']
  | '"' => ['\\', '"']
  | '\\' => ['\\', '\\']
  | c =>
    if Hidden.contains c then
      "\\u\x7b".toList ++ Nat.toDigits 16 c.toNat ++ "\x7d".toList
    else [c]

/-- A byte that is not part of a character as it is shown. -/
def showByte (b : UInt8) : List Char :=
  ['\\', 'x', hexDigit (b.toNat / 16), hexDigit (b.toNat % 16)]

/-- A chunk of a name as it is shown. -/
def showChunk : Utf8.Chunk → List Char
  | .char c => showChar c
  | .illFormed bytes => bytes.flatMap showByte

/-- A name as it is shown. -/
def quote (name : Bytes) : String :=
  String.ofList ('"' :: (Utf8.chunks name).flatMap showChunk ++ ['"'])

end EditorClient.Quoted
