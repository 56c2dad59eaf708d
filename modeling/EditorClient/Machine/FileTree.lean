/-
# Trees of files

Files, directories, symbolic links and local sockets, held as a list of places
with what is there. A place is the list of names that lead to it from the root.

`walk` follows a path as an operating system does. Links are followed wherever
they occur, up to a limit; a name must be looked up in a directory and may not be
too long.
-/

import EditorClient.Error

namespace EditorClient

open Bytes

/-- The names that lead from the root to a file. -/
abbrev Place := List Bytes

/-- What is at a place. -/
inductive FileEntry
  | file (content : Bytes)
  /-- A file that can be run. -/
  | program (script : Bytes)
  | directory
  | link (target : Bytes)
  /-- A local socket, with the number of the server that listens there, if one
  does. -/
  | socket (server : Option Nat)
  deriving DecidableEq, Repr

/-- Places and what is there. The root is a directory and needs no entry. -/
structure FileTree where
  entries : List (Place × FileEntry) := []
  deriving DecidableEq, Repr

namespace FileTree

/-- What is at a place. -/
def entry? (tree : FileTree) (place : Place) : Option FileEntry :=
  if place = [] then some .directory else tree.entries.lookup place

/-- How many links are followed on the way along one path. -/
def linkLimit : Nat := 40

/-- How long a name may be. -/
def nameLimit : Nat := 255

/-- How long a path may be, with the zero byte that ends it. -/
def pathLimit : Nat := 4096

/-- The names of a path. A slash at the end asks for a directory, as does a dot
after it. -/
def names (path : Bytes) : List Bytes :=
  let parts := (Pieces.split slash path).filter (· ≠ [])
  if parts ≠ [] ∧ path.getLast? = some slash then parts ++ [ofText "."] else parts

/-- Where a path starts. -/
def origin (directory : Place) (path : Bytes) : Place :=
  if path.head? = some slash then [] else directory

/-- Follow names from a place, and at most `links` links. -/
def walk (tree : FileTree) (links : Nat) (here : Place) :
    List Bytes → Except IoError Place
  | [] => .ok here
  | name :: rest =>
    match tree.entry? here with
    | none => .error .noSuchFile
    | some .directory =>
      if name = ofText "." then walk tree links here rest
      else if name = ofText ".." then walk tree links here.dropLast rest
      else if nameLimit < name.length then .error .nameTooLong
      else
        let next := here ++ [name]
        match tree.entry? next with
        | none => .error .noSuchFile
        | some (.link target) =>
          match links with
          | 0 => .error .tooManyLinks
          | links + 1 => walk tree links (origin here target) (names target ++ rest)
        | some _ => walk tree links next rest
    | some _ => .error .notADirectory
termination_by names => (links, names.length)

/-- The place to which a path leads from a directory. -/
def resolve (tree : FileTree) (directory : Place) (path : Bytes) : Except IoError Place :=
  if path.contains 0 then .error .zeroByteInName
  else if path = [] then .error .noSuchFile
  else if pathLimit ≤ path.length then .error .nameTooLong
  else tree.walk linkLimit (origin directory path) (names path)

/-- What is at the end of a path. -/
def find (tree : FileTree) (directory : Place) (path : Bytes) : Except IoError FileEntry :=
  match tree.resolve directory path with
  | .error error => .error error
  | .ok place => ((tree.entry? place).map .ok).getD (.error .noSuchFile)

/-- Put something at a place, in the place of what was there. -/
def put (tree : FileTree) (place : Place) (entry : FileEntry) : FileTree :=
  ⟨(place, entry) :: tree.entries⟩

/-- Make the directories with these names, one inside the other, as far as they
do not exist, and return the innermost. -/
def makeDirectories (tree : FileTree) (here : Place) : List Bytes → FileTree × Place
  | [] => (tree, here)
  | name :: rest =>
    match tree.walk linkLimit here [name] with
    | .ok place => makeDirectories tree place rest
    | .error _ =>
      let place := here ++ [name]
      makeDirectories (tree.put place .directory) place rest

/-- Put something at the end of a path, making the directories on the way. -/
def create (tree : FileTree) (directory : Place) (path : Bytes) (entry : FileEntry) : FileTree :=
  let parts := (Pieces.split slash path).filter (· ≠ [])
  let made := tree.makeDirectories (origin directory path) parts.dropLast
  match parts.getLast? with
  | none => made.1
  | some name => made.1.put (made.2 ++ [name]) entry

end FileTree

end EditorClient
