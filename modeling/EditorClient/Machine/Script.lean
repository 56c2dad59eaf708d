/-
# Scripts

Programs on the machine are short shell scripts. Of the shell this module has
what such scripts need: words with both kinds of quotes, the arguments as `$*`
and `$@`, and the commands `echo`, `printf` and `exit`.
-/

import EditorClient.Bytes
import EditorClient.Text.Decimal

namespace EditorClient.Script

open Bytes

/-- A part of a word. -/
inductive Part
  | text (byte : UInt8)
  /-- All arguments, as words of their own where the word is nothing else. -/
  | each
  /-- All arguments, joined by spaces. -/
  | joined
  deriving DecidableEq, Repr

/-- How far the reading of a line has come: the words that are complete, the word
that has been begun, the quote that is open and whether a dollar sign came last.
Words and parts have the latest first. -/
structure Scan where
  words : List (List Part) := []
  word : Option (List Part) := none
  quote : Option UInt8 := none
  dollar : Bool := false

/-- Add a part to the word that has been begun. -/
def Scan.add (s : Scan) (part : Part) : Scan :=
  { s with word := some (part :: s.word.getD []), dollar := false }

/-- The word that has been begun is complete. -/
def Scan.close (s : Scan) : Scan :=
  match s.word with
  | none => s
  | some parts => { s with words := parts.reverse :: s.words, word := none }

/-- Read one byte of a line. The numbers are those of the two quotes, of `$`, `@`
and `*`. -/
def Scan.step (s : Scan) (b : UInt8) : Scan :=
  if s.dollar then
    if b = 64 then s.add .each
    else if b = 42 then s.add .joined
    else (s.add (.text 36)).add (.text b)
  else if s.quote = some b then { s with quote := none }
  else if s.quote = some 39 then s.add (.text b)
  else if b = 36 then { s with dollar := true }
  else if s.quote.isSome then s.add (.text b)
  else if b = 34 ∨ b = 39 then { s with quote := some b, word := some (s.word.getD []) }
  else if b = space then s.close
  else s.add (.text b)

/-- The words of a line. -/
def words (line : Bytes) : List (List Part) :=
  (line.foldl Scan.step {}).close.words.reverse

/-- What a word stands for with these arguments. -/
def expand (args : List Bytes) (word : List Part) : List Bytes :=
  if word = [.each] then args
  else
    [word.flatMap fun part =>
      match part with
      | .text b => [b]
      | .each | .joined => [space].intercalate args]

/-- A text with its backslash sequences for line end, tabulator and backslash
replaced. -/
def unescape : Bytes → Bytes
  | 92 :: 110 :: rest => newline :: unescape rest
  | 92 :: 116 :: rest => 9 :: unescape rest
  | 92 :: 92 :: rest => 92 :: unescape rest
  | b :: rest => b :: unescape rest
  | [] => []

/-- One use of a format: each `%s` is replaced by the next argument. The result
is the text and the arguments that are left. -/
def format : Bytes → List Bytes → Bytes × List Bytes
  | 37 :: 115 :: rest, args =>
    let more := format rest args.tail
    (args.headD [] ++ more.1, more.2)
  | b :: rest, args =>
    let more := format rest args
    (b :: more.1, more.2)
  | [], args => ([], args)

/-- A format is used until no arguments are left, but at least once, and only
once if it takes none. -/
def formatAll (text : Bytes) : (fuel : Nat) → List Bytes → Bytes
  | 0, _ => []
  | fuel + 1, args =>
    let once := format text args
    if once.2 = [] ∨ once.2.length = args.length then once.1
    else once.1 ++ formatAll text fuel once.2

/-- What a program leaves behind: its status and its output. -/
structure Result where
  status : Nat
  output : Bytes
  deriving DecidableEq, Repr

/-- Run the lines of a script with these arguments, after this output. -/
def runLines (args : List Bytes) (output : Bytes) : List Bytes → Result
  | [] => ⟨0, output⟩
  | line :: rest =>
    match (words line).flatMap (expand args) with
    | [] => runLines args output rest
    | command :: operands =>
      if command = ofText "exit" then
        let digits := (operands.headD []).map fun b => Char.ofNat b.toNat
        ⟨(Decimal.natural? digits).getD 0 % 256, output⟩
      else if command = ofText "echo" then
        let text := unescape ([space].intercalate operands)
        runLines args (output ++ text ++ [newline]) rest
      else if command = ofText "printf" then
        let text := formatAll (unescape (operands.headD [])) operands.length operands.tail
        runLines args (output ++ text) rest
      else runLines args output rest

/-- Run a script with these arguments. Lines that begin with a number sign are
comments. -/
def run (script : Bytes) (args : List Bytes) : Result :=
  runLines args [] ((Pieces.split newline script).filter fun line => line.head? ≠ some 35)

example : run (ofText "printf '[%s]' \"$@\"\nexit 7\n") [ofText "a", ofText "b"] =
    ⟨7, ofText "[a][b]"⟩ := by decide

example : run (ofText "echo \"emacs $*\"\n") [ofText "--daemon"] =
    ⟨0, ofText "emacs --daemon\n"⟩ := by decide

end EditorClient.Script
