import SchemaCheck.FileTree
import SchemaCheck.Url.Parser

/-!
Local paths and the locators of files.
-/

namespace SchemaCheck.Url

open Utf8 (Bytes)

def isColonOrBar (b : UInt8) : Bool :=
  b == 0x3A || b == 0x7C

def isLetter (b : UInt8) : Bool :=
  0x41 ≤ b && b ≤ 0x5A || 0x61 ≤ b && b ≤ 0x7A

/-- Adds a slash to a path that ends in a drive letter. -/
def closeDrive (path : Bytes) : Bytes :=
  match path.reverse with
  | mark :: letter :: _ :: _ =>
    if isColonOrBar mark && isLetter letter then path ++ [FileTree.slash] else path
  | _ => path

/-- The path of a locator of a local file. -/
def filePath? (u : Url) : Option Bytes :=
  let isLocal :=
    match u.authority with
    | none => true
    | some a => a.host.isEmpty || a.host == "localhost"
  match u.path with
  | .rooted segments =>
    if isLocal then
      some (closeDrive (segments.flatMap fun s => FileTree.slash :: Percent.decode s))
    else none
  | .rootless _ => none

def inFileName (c : Char) : Bool :=
  Parser.inPath c || c == '/' || c == '%' || c == '\\'

def encodeFileByte (b : UInt8) : List Char :=
  if b.toNat < 0x7F then Percent.encodeChar inFileName (Char.ofNat b.toNat)
  else Percent.encodeByte b

/-- The text of the locator of a file. -/
def ofPlace (place : List Bytes) : String :=
  let path := if place.isEmpty then ['/'] else place.flatMap fun name =>
    '/' :: name.flatMap encodeFileByte
  String.ofList ("file://".toList ++ path)

end SchemaCheck.Url
