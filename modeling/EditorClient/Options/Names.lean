/-
# Names of options

Every option has a long name, and all but one name have a letter as well. A long
name may be shortened as long as all names that begin with the short form are
names of one option; a name that is given in full always means itself.
-/

import EditorClient.Options.Basic

namespace EditorClient

/-- An option, with or without a value. -/
inductive OptionKind
  | switch (s : Switch)
  | setting (s : Setting)
  deriving DecidableEq, Repr

namespace OptionKind

/-- The long names. -/
def longNames : List (String × OptionKind) :=
  [("no-wait", .switch .noWait), ("quiet", .switch .quiet),
    ("suppress-output", .switch .suppressOutput), ("eval", .switch .eval),
    ("help", .switch .help), ("version", .switch .version),
    ("tty", .switch .terminal), ("nw", .switch .terminal),
    ("create-frame", .switch .createFrame),
    ("alternate-editor", .setting .alternateEditor),
    ("frame-parameters", .setting .frameParameters),
    ("socket-name", .setting .socketName), ("server-file", .setting .serverFile),
    ("display", .setting .display), ("parent-id", .setting .parentId),
    ("tramp", .setting .tramp), ("timeout", .setting .timeout)]

/-- The letters. -/
def letters : List (Char × OptionKind) :=
  [('n', .switch .noWait), ('q', .switch .quiet), ('u', .switch .suppressOutput),
    ('e', .switch .eval), ('H', .switch .help), ('V', .switch .version),
    ('t', .switch .terminal), ('c', .switch .createFrame),
    ('a', .setting .alternateEditor), ('F', .setting .frameParameters),
    ('s', .setting .socketName), ('f', .setting .serverFile),
    ('d', .setting .display), ('p', .setting .parentId), ('T', .setting .tramp),
    ('w', .setting .timeout)]

/-- The option with a letter. -/
def ofLetter? (b : UInt8) : Option OptionKind := letters.lookup (Char.ofNat b.toNat)

/-- The option with exactly this long name. -/
def ofFullName? (name : Bytes) : Option OptionKind :=
  (longNames.find? fun n => Bytes.ofText n.1 = name).map Prod.snd

/-- The options whose long names begin with these bytes. -/
def abbreviatedBy (name : Bytes) : List OptionKind :=
  (longNames.filter fun n => (Bytes.after? name (Bytes.ofText n.1)).isSome).map Prod.snd

/-- The option that a long name means, given in full or shortened. -/
def ofLongName? (name : Bytes) : Option OptionKind :=
  match ofFullName? name with
  | some opt => some opt
  | none =>
    match abbreviatedBy name with
    | [] => none
    | first :: others => if others.all (· = first) then some first else none

end OptionKind

end EditorClient
