/-
# Items

What the user names on the command line is an expression to evaluate, a position
or a file. When evaluating, every item is an expression, and where there is none
the expressions are the lines of standard input. Otherwise an item is a position
if it has the form of one, and a file if not.
-/

import EditorClient.Config
import EditorClient.Wire.Lines

namespace EditorClient

open Bytes

/-- One thing that the user asks for. -/
inductive Item
  /-- An expression to evaluate. -/
  | expression (source : Bytes)
  /-- A line, or a line and a column, in the file that comes next. -/
  | position (text : Bytes)
  /-- A file to visit. -/
  | file (path : Bytes)
  deriving DecidableEq, Repr

namespace Item

/-- Whether all of a non-empty sequence are digits. -/
def allDigits (text : Bytes) : Bool := text ≠ [] && text.all isDigit

/-- Whether an item is a position: a plus sign and a number, and perhaps a colon
and another number. -/
def isPosition : Bytes → Bool
  | [] => false
  | b :: rest =>
    b = plus &&
      match Pieces.cut colon rest with
      | (line, none) => allDigits line
      | (line, some column) => allDigits line && allDigits column

/-- What an item on the command line is. -/
def classify (eval : Bool) (item : Bytes) : Item :=
  if eval then .expression item
  else if isPosition item then .position item
  else .file item

/-- Read up to the next newline: the bytes that were read, with the newline if there is
one, and those that are left. -/
def readLine (input : Bytes) : Bytes × Bytes :=
  match input.dropWhile (· ≠ newline) with
  | [] => (input.takeWhile (· ≠ newline), [])
  | b :: rest => (input.takeWhile (· ≠ newline) ++ [b], rest)

/-- Nothing is lost in a read. -/
theorem readLine_append (input : Bytes) : (readLine input).1 ++ (readLine input).2 = input := by
  have whole : input.takeWhile (· ≠ newline) ++ input.dropWhile (· ≠ newline) = input :=
    List.takeWhile_append_dropWhile
  rw [readLine]
  split
  case h_1 none =>
    rwa [none] at whole
  case h_2 b rest left =>
    rw [left] at whole
    rwa [List.append_assoc, List.singleton_append]

/-- A read that reads something leaves less. -/
theorem length_readLine_lt {input : Bytes} (some_ : (readLine input).1 ≠ []) :
    (readLine input).2.length < input.length := by
  have positive := List.length_pos_iff.mpr some_
  have whole := congrArg List.length (readLine_append input)
  rw [List.length_append] at whole
  omega

/-- What was read of a line without the newline that ends it. -/
def withoutNewline (read : Bytes) : Bytes :=
  if read.getLast? = some newline then read.dropLast else read

/-- Read lines, each into an empty buffer, until nothing is read. The items have the
latest first. An empty line is no item. -/
def readExpressions (items : List Item) (input : Bytes) : List Item :=
  let read := readLine input
  if read.1 = [] then items.reverse
  else
    let line := withoutNewline read.1
    readExpressions (if line = [] then items else .expression line :: items) read.2
termination_by input.length
decreasing_by exact length_readLine_lt ‹_›

/-- The expressions in what standard input holds, one a line. -/
def expressions (input : Bytes) : List Item := readExpressions [] input

/-- What the user asks for. -/
def all (c : Config) (input : Bytes) : List Item :=
  if c.eval ∧ c.items = [] then expressions input else c.items.map (classify c.eval)

end Item

end EditorClient
