import SchemaCheck.Json.Parser
import SchemaCheck.Text.Utf8
import SchemaCheck.Yaml.Cursor

/-!
Properties of nodes and directives: anchors and aliases, tags, and the directives for a version or
for the handle of a tag.
-/

namespace SchemaCheck.Yaml.Property

open Utf8 (Bytes)

/-- The name of an anchor or an alias; `c` is at its indicator. -/
def name? (c : Cursor) : Option (String × Cursor) :=
  let (name, c) := (c.skip 1).takeWhile isWordChar
  let ends := c.spacedAt 0 ||
    c.sees fun ch => ['?', ':', ',', ']', '\x7d', '%', '@', Char.ofNat 0x60].contains ch
  if !name.isEmpty && ends then some (String.ofList name, c) else none

def isTagChar (inBrackets : Bool) (ch : Char) : Bool :=
  isWordChar ch ||
    [';', '/', '?', ':', '@', '&', '=', '+', '$', '.', '%', '!', '~', '*', '\'', '(', ')'].contains
      ch ||
    inBrackets && [',', '[', ']'].contains ch

/-- The number of bytes of a character by its first byte. -/
def width? (b : Nat) : Option Nat :=
  if b < 0x80 then some 1
  else if 0xC0 ≤ b ∧ b < 0xE0 then some 2
  else if 0xE0 ≤ b ∧ b < 0xF0 then some 3
  else if 0xF0 ≤ b ∧ b < 0xF8 then some 4
  else none

/-- The byte encoded by a percent sign and two digits. -/
def octet? : List Char → Option (Nat × List Char)
  | '%' :: high :: low :: rest => do
    let high ← Json.Parser.hexValue? high
    let low ← Json.Parser.hexValue? low
    return (high * 16 + low, rest)
  | _ => none

/-- The remaining bytes of a character. -/
def trailing? : Nat → List Char → Option (Bytes × List Char)
  | 0, s => some ([], s)
  | count + 1, s => do
    let (b, s) ← octet? s
    if 0x80 ≤ b ∧ b < 0xC0 then
      let (more, s) ← trailing? count s
      some (UInt8.ofNat b :: more, s)
    else none

/-- The bytes of one percent-encoded character. -/
def escaped? (s : List Char) : Option (Bytes × List Char) := do
  let (b, s) ← octet? s
  let width ← width? b
  let (more, s) ← trailing? (width - 1) s
  return (UInt8.ofNat b :: more, s)

/-- The bytes in front of the first null byte, where a tag ends. -/
def untilNull (bytes : Bytes) : Bytes :=
  bytes.takeWhile (· ≠ 0)

/-- Reads the characters of a tag. -/
def uri? (inBrackets : Bool) : Nat → Cursor → Option (Bytes × Cursor)
  | 0, _ => none
  | fuel + 1, c =>
    match c.rest with
    | [] => some ([], c)
    | ch :: _ =>
      if !isTagChar inBrackets ch then some ([], c)
      else do
        let (bytes, count) ←
          if ch = '%' then do
            let (bytes, _) ← escaped? c.rest
            pure (bytes, 3 * bytes.length)
          else pure ([ch.toUInt8], 1)
        let (more, c) ← uri? inBrackets fuel (c.skip count)
        some (bytes ++ more, c)

/-- One or more characters of a tag. -/
def someUri? (inBrackets : Bool) (size : Nat) (c : Cursor) : Option (Bytes × Cursor) := do
  let (bytes, after) ← uri? inBrackets size c
  if after.index = c.index then none else some (untilNull bytes, after)

/-- An exclamation mark, the name behind it, and an optional second mark. -/
def handle? (c : Cursor) : Option (List Char × Cursor) :=
  if c.isAt '!' then
    let (name, c) := (c.skip 1).takeWhile isWordChar
    if c.isAt '!' then some ('!' :: name ++ ['!'], c.skip 1) else some ('!' :: name, c)
  else none

/-- A name between two exclamation marks, or two exclamation marks. -/
def isHandle (text : List Char) : Bool :=
  2 ≤ text.length && text.getLast? == some '!'

def bytesOf (s : List Char) : Bytes :=
  Utf8.encodeChars s

/-- A tag as its handle and the text behind it; `c` is at its mark. A tag in angle brackets and a
single mark have no handle. -/
def tag? (inFlow : Bool) (size : Nat) (c : Cursor) : Option ((Bytes × Bytes) × Cursor) := do
  let (tag, c) ←
    if (c.skip 1).isAt '<' then do
      let (text, c) ← someUri? true size (c.skip 2)
      if c.isAt '>' then some (([], text), c.skip 1) else none
    else do
      let (handle, c) ← handle? c
      if isHandle handle then do
        let (text, c) ← someUri? false size c
        some ((bytesOf handle, text), c)
      else do
        let (more, c) ← uri? false size c
        let text := bytesOf (handle.drop 1) ++ untilNull more
        some (if text.isEmpty then ([], bytesOf ['!']) else (bytesOf ['!'], text), c)
  if c.spacedAt 0 || inFlow && c.isAt ',' then some (tag, c) else none

inductive Directive where
  | version (major minor : Nat)
  | tagHandle (handle stem : Bytes)

/-- A number of at most nine digits. -/
def number? (c : Cursor) : Option (Nat × Cursor) :=
  let (digits, c) := c.takeWhile Char.isDigit
  if digits.isEmpty ∨ 9 < digits.length then none
  else some (digits.foldl (fun n ch => n * 10 + (ch.toNat - '0'.toNat)) 0, c)

def version? (c : Cursor) : Option (Directive × Cursor) := do
  let (major, c) ← number? (c.skipWhile isBlank)
  if c.isAt '.' then
    let (minor, c) ← number? (c.skip 1)
    return (.version major minor, c)
  else none

def tagHandle? (size : Nat) (c : Cursor) : Option (Directive × Cursor) := do
  let (handle, c) ← handle? (c.skipWhile isBlank)
  if handle ≠ ['!'] ∧ !isHandle handle then none
  else if !c.sees isBlank then none
  else
    let (stem, c) ← someUri? true size (c.skipWhile isBlank)
    if c.spacedAt 0 then some (.tagHandle (bytesOf handle) stem, c) else none

/-- A directive and the rest of its line; `c` is at the percent sign. -/
def directive? (size : Nat) (c : Cursor) : Option (Directive × Cursor) := do
  let (name, c) := (c.skip 1).takeWhile isWordChar
  if !c.spacedAt 0 then none
  else
    let (directive, c) ←
      if name = "YAML".toList then version? c
      else if name = "TAG".toList then tagHandle? size c
      else none
    let c ← c.lineEnd?
    return (directive, c.skipNewLine)

end SchemaCheck.Yaml.Property
