/-!
Positions in the text of a document: the rest of the text, and the offset from the start of the text
and of the line.
-/

namespace SchemaCheck.Yaml

structure Cursor where
  rest : List Char
  index : Nat
  line : Nat
  column : Nat

def isBlank (c : Char) : Bool :=
  c == ' ' || c == '\t'

/-- Line breaks are one of five characters. -/
def isBreak (c : Char) : Bool :=
  c == '\n' || c == '\r' || c.toNat == 0x85 || c.toNat == 0x2028 || c.toNat == 0x2029

/-- The characters of names. -/
def isWordChar (c : Char) : Bool :=
  c.isAlphanum || c == '_' || c == '-'

namespace Cursor

def ofText (text : List Char) : Cursor := ⟨text, 0, 0, 0⟩

def atEnd (c : Cursor) : Bool :=
  c.rest.isEmpty

/-- Whether there is a next character and it has the property. -/
def sees (p : Char → Bool) (c : Cursor) : Bool :=
  (c.rest.head?.map p).getD false

def isAt (ch : Char) (c : Cursor) : Bool :=
  c.sees (· == ch)

/-- Whether a blank, the end of a line or the end of the text is `ahead` characters ahead. -/
def spacedAt (ahead : Nat) (c : Cursor) : Bool :=
  (c.rest[ahead]?.map fun ch => isBlank ch || isBreak ch).getD true

/-- Moves on by `count` characters of the line. -/
def skip (count : Nat) (c : Cursor) : Cursor :=
  ⟨c.rest.drop count, c.index + count, c.line, c.column + count⟩

/-- The following characters with the property, and the position behind them. -/
def takeWhile (p : Char → Bool) (c : Cursor) : List Char × Cursor :=
  let taken := c.rest.takeWhile p
  (taken, c.skip taken.length)

def skipWhile (p : Char → Bool) (c : Cursor) : Cursor :=
  (c.takeWhile p).2

/-- The normalized line break at this position and the position behind it, if there is one. A
carriage return with a line feed is one line break; only the two Unicode separators are kept. -/
def newLine? (c : Cursor) : Option (List Char × Cursor) :=
  match c.rest with
  | '\r' :: '\n' :: rest => some (['\n'], ⟨rest, c.index + 2, c.line + 1, 0⟩)
  | ch :: rest =>
    if isBreak ch then
      let text := if ch.toNat = 0x2028 ∨ ch.toNat = 0x2029 then ch else '\n'
      some ([text], ⟨rest, c.index + 1, c.line + 1, 0⟩)
    else none
  | [] => none

/-- The start of the next line, or the same position if there is no line break. -/
def skipNewLine (c : Cursor) : Cursor :=
  (c.newLine?.map (·.2)).getD c

/-- Whether a line that begins with three times `mark` starts here. -/
def atMarker (mark : Char) (c : Cursor) : Bool :=
  c.column == 0 && c.rest.take 3 == [mark, mark, mark] && c.spacedAt 3

/-- Whether a line that separates documents starts here. -/
def atDivider (c : Cursor) : Bool :=
  c.atMarker '-' || c.atMarker '.'

/-- The end of the line, if only blanks and a comment are in front of it. -/
def lineEnd? (c : Cursor) : Option Cursor :=
  let c := c.skipWhile isBlank
  let c := if c.isAt '#' then c.skipWhile fun ch => !isBreak ch else c
  if c.atEnd || c.sees isBreak then some c else none

end Cursor

end SchemaCheck.Yaml
