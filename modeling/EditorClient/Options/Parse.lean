/-
# Reading a command line

Each argument is first read by itself: it is an item, the end of the options, or
one or more options. Only the last option of an argument can lack its value, and
then the next argument is that value, whatever it looks like.

A long name is given after two dashes or after one. With one dash a full long
name comes before a row of letters, so `-nw` is a name and `-qn` are two letters.
-/

import EditorClient.Options.Names

namespace EditorClient

open Bytes

/-- What an argument says by itself. -/
inductive Argument
  /-- It is not an option. -/
  | item
  /-- All that follows are items. -/
  | endOfOptions
  /-- It is no valid option. -/
  | refused (error : OptionError)
  /-- It gives these switches. -/
  | switches (given : List Switch)
  /-- It gives these switches and a setting with its value. -/
  | assigns (given : List Switch) (setting : Setting) (value : Bytes)
  /-- It gives these switches and a setting, shown as `option` in messages,
  whose value is the next argument. -/
  | expects (given : List Switch) (setting : Setting) (option : String)
  deriving DecidableEq, Repr

namespace Argument

/-- A long name, perhaps with an equals sign and a value. -/
def readLong (body : Bytes) : Argument :=
  let name := (Pieces.cut equals body).1
  let value := (Pieces.cut equals body).2
  let option := "--" ++ Utf8.lossy name
  match OptionKind.ofLongName? name, value with
  | none, _ => .refused (.unknown option)
  | some (.setting s), some value => .assigns [] s value
  | some (.setting s), none => .expects [] s option
  | some (.switch _), some _ => .refused (.unexpectedValue option)
  | some (.switch s), none => .switches [s]

/-- What an argument says that gives a switch first. -/
def give (s : Switch) : Argument → Argument
  | .switches given => .switches (s :: given)
  | .assigns given setting value => .assigns (s :: given) setting value
  | .expects given setting option => .expects (s :: given) setting option
  | other => other

/-- A row of letters at the end of `body`. The first letter of a setting ends the
row: what follows it is its value. -/
def readLetters (body : Bytes) : Bytes → Argument
  | [] => .switches []
  | b :: rest =>
    match OptionKind.ofLetter? b, rest with
    | none, _ => .refused (.unknown ("-" ++ Utf8.lossy body))
    | some (.switch s), rest => (readLetters body rest).give s
    | some (.setting s), [] =>
      .expects [] s ("-" ++ String.singleton (Char.ofNat b.toNat))
    | some (.setting s), value => .assigns [] s value

/-- What follows a single dash. -/
def readShort (body : Bytes) : Argument :=
  if 1 < body.length ∧ (OptionKind.ofFullName? (Pieces.cut equals body).1).isSome then
    readLong body
  else readLetters body body

/-- What an argument says by itself. A dash alone is an item. -/
def read (arg : Bytes) : Argument :=
  if arg = [dash, dash] then .endOfOptions
  else
    match arg with
    | a :: b :: rest =>
      if a ≠ dash then .item
      else if b = dash then readLong rest
      else readShort (b :: rest)
    | _ => .item

end Argument

namespace Options

/-- What a command line says, without the name of the program. The first
argument that is wrong decides the error. -/
def parse : List Bytes → Except OptionError Options
  | [] => .ok {}
  | arg :: rest =>
    match Argument.read arg, rest with
    | .item, rest => do
      let more ← parse rest
      return ofItem arg ++ more
    | .endOfOptions, rest => .ok { items := rest }
    | .refused error, _ => .error error
    | .switches given, rest => do
      let more ← parse rest
      return ofSwitches given ++ more
    | .assigns given setting value, rest => do
      let here ← ofSetting setting value
      let more ← parse rest
      return ofSwitches given ++ here ++ more
    | .expects _ _ option, [] => .error (.missingValue option)
    | .expects given setting _, value :: rest => do
      let here ← ofSetting setting value
      let more ← parse rest
      return ofSwitches given ++ here ++ more

end Options

end EditorClient
