import SchemaCheck.Text.Utf8

/-!
Trees of files and directories. A path is read step by step: each step but the last must lead to a
directory, a dot stays where it is and two dots go up.
-/

namespace SchemaCheck

open Utf8 (Bytes)

/-- Directories and files, each with the list of names on its path from the root. The parent
directories of an entry are entries as well. -/
structure FileTree where
  directories : List (List Bytes)
  files : List (List Bytes × Bytes)

inductive FileError where
  | noEntry
  | notDirectory
  | isDirectory
  | nameTooLong
  | nulInPath
  deriving DecidableEq

def FileError.message : FileError → String
  | noEntry => "No such file or directory (os error 2)"
  | notDirectory => "Not a directory (os error 20)"
  | isDirectory => "Is a directory (os error 21)"
  | nameTooLong => "File name too long (os error 36)"
  | nulInPath => "file name contained an unexpected NUL byte"

namespace FileTree

def slash : UInt8 := 0x2F

def dot : UInt8 := 0x2E

def nameLimit : Nat := 255

def pathLimit : Nat := 4095

/-- The names between the slashes of a path. -/
def names : Bytes → List Bytes
  | [] => [[]]
  | b :: rest =>
    if b = slash then [] :: names rest
    else
      match names rest with
      | [] => [[b]]
      | name :: more => (b :: name) :: more

/-- The path from the root that has the names. -/
def pathOf (names : List Bytes) : Bytes :=
  if names.isEmpty then [slash] else names.flatMap (slash :: ·)

def file? (t : FileTree) (place : List Bytes) : Option Bytes :=
  (t.files.find? (·.1 = place)).map (·.2)

def isDirectory (t : FileTree) (place : List Bytes) : Bool :=
  place.isEmpty || t.directories.any place.isPrefixOf ||
    t.files.any fun entry => place.isPrefixOf entry.1 && place != entry.1

/-- The place that is reached from `place` by the name. -/
def step (t : FileTree) (place : List Bytes) (name : Bytes) : Except FileError (List Bytes) :=
  if !t.isDirectory place then .error .notDirectory
  else if name = [] ∨ name = [dot] then .ok place
  else if name = [dot, dot] then .ok place.dropLast
  else if nameLimit < name.length then .error .nameTooLong
  else
    let next := place ++ [name]
    if (t.file? next).isSome || t.isDirectory next then .ok next else .error .noEntry

/-- The place of an absolute path, free of dots. -/
def canonical (t : FileTree) (path : Bytes) : Except FileError (List Bytes) :=
  if path.contains 0 then .error .nulInPath
  else if pathLimit < path.length then .error .nameTooLong
  else (names path).foldlM t.step []

def read (t : FileTree) (path : Bytes) : Except FileError Bytes := do
  let place ← t.canonical path
  match t.file? place with
  | some content => .ok content
  | none => .error .isDirectory

end FileTree

end SchemaCheck
