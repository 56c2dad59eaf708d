/-
# The alternate editor

Where no server can be used, the items can be handed to another editor. Its
command is a text that is taken apart at spaces; a word that is opened by a
double quote goes on to the next double quote instead.
-/

import EditorClient.Config
import EditorClient.Error

namespace EditorClient.AlternateEditor

/-- Whether a character can only stand between words. -/
def isDelimiter (c : Char) : Bool := c = ' ' || c = '"'

/-- What ends a word after these delimiters: a double quote if the last of them
is one, and a space otherwise. -/
def terminator (delimiters : List Char) : Char :=
  if delimiters.getLast? = some '"' then '"' else ' '

/-- Dropping from a list does not make it longer. -/
theorem length_dropWhile_le {α : Type} (p : α → Bool) (l : List α) :
    (l.dropWhile p).length ≤ l.length :=
  (List.dropWhile_sublist p).length_le

/-- The words of a command. None of them is empty. -/
def split (text : List Char) : List (List Char) :=
  match _cut : Pieces.cut (terminator (text.takeWhile isDelimiter))
      (text.dropWhile isDelimiter) with
  | (word, none) => if word = [] then [] else [word]
  | (word, some rest) => if word = [] then split rest else word :: split rest
termination_by text.length
decreasing_by
  all_goals
    have := Pieces.length_lt_of_cut (congrArg Prod.snd _cut)
    have := length_dropWhile_le isDelimiter text
    omega

/-- The words of a command, as texts. -/
def words (command : String) : List String :=
  (split command.toList).map String.ofList

/-- The program to run and its arguments: the words of the command and then the
items as they are. -/
def commandLine (c : Config) : List Bytes :=
  (words (c.alternateEditor.getD "")).map Bytes.ofText ++ c.items

/-- Why the alternate editor cannot even be tried, if it cannot: its command has
no words, or a zero byte is in the way. -/
def refusal (c : Config) : Option IoError :=
  if words (c.alternateEditor.getD "") = [] then some .emptyCommand
  else if (commandLine c).any fun word => word.contains 0 then some .zeroByteInCommand
  else none

/-- The error of an alternate editor that could not be run. -/
def failed (c : Config) (cause : IoError) : ClientError :=
  .alternateEditor (c.alternateEditor.getD "") cause

end EditorClient.AlternateEditor
