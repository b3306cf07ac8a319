import SchemaCheck.Yaml.Block
import SchemaCheck.Yaml.Flow
import SchemaCheck.Yaml.Property

/-!
The tokens of a document. Changes of indentation are tokens that open and close block collections.
For a key without an indicator, the token for a key is inserted in front of its node when a colon
follows on the same line, together with the token for a mapping if the key is the first one.
-/

namespace SchemaCheck.Yaml

open Utf8 (Bytes)

inductive Token where
  | streamEnd
  | directive (d : Property.Directive)
  | documentStart
  | documentEnd
  | blockSequenceStart
  | blockMappingStart
  | blockEnd
  | flowSequenceStart
  | flowSequenceEnd
  | flowMappingStart
  | flowMappingEnd
  | blockEntry
  | flowEntry
  | key
  | value
  | aliasOf (name : String)
  | anchor (name : String)
  | tag (handle text : Bytes)
  | scalar (plain : Bool) (text : String)

/-- A node that becomes a key if a colon follows. -/
structure PendingKey where
  /-- The node is at the start of a line of a block mapping and must be a key. -/
  required : Bool
  /-- The number of tokens in front of the node. -/
  number : Nat
  index : Nat
  line : Nat
  column : Nat

/-- The state of the lexer. -/
structure Lexer where
  cursor : Cursor
  /-- The tokens in reverse order. -/
  tokens : List Token
  /-- The column of the innermost block collection, or a negative number outside of all. -/
  indent : Int
  outerIndents : List Int
  key : Option PendingKey
  /-- The pending keys outside the open flow collections, innermost first. -/
  outerKeys : List (Option PendingKey)
  /-- Whether a key may start here. -/
  keyAllowed : Bool
  /-- A bound on the length of the text. -/
  size : Nat

namespace Lexer

def start (text : List Char) : Lexer :=
  ⟨.ofText text, [], -1, [], none, [], true, text.length + 1⟩

def inFlow (l : Lexer) : Bool :=
  !l.outerKeys.isEmpty

def emit (t : Token) (l : Lexer) : Lexer :=
  { l with tokens := t :: l.tokens }

/-- Inserts a token behind the first `number` ones. -/
def insert (number : Nat) (t : Token) (l : Lexer) : Lexer :=
  let behind := l.tokens.length - number
  { l with tokens := l.tokens.take behind ++ t :: l.tokens.drop behind }

/-- Reads a token of `count` characters. -/
def mark (count : Nat) (t : Token) (l : Lexer) : Lexer :=
  { l with cursor := l.cursor.skip count }.emit t

/-- Opens a block collection behind the first `number` tokens if the column exceeds the
indentation. -/
def indentTo (column number : Nat) (t : Token) (l : Lexer) : Lexer :=
  if l.inFlow ∨ (column : Int) ≤ l.indent then l
  else { l with indent := column, outerIndents := l.indent :: l.outerIndents }.insert number t

/-- Closes the block collections whose column exceeds `column`. -/
def closeBlocks (column : Int) : List Int → Lexer → Lexer
  | [], l => l
  | outer :: rest, l =>
    if column < l.indent then
      closeBlocks column rest ({ l with indent := outer, outerIndents := rest }.emit .blockEnd)
    else l

def outdentTo (column : Int) (l : Lexer) : Lexer :=
  if l.inFlow then l else closeBlocks column l.outerIndents l

/-- Drops the pending key, which fails if it is required. -/
def dropKey (l : Lexer) : Option Lexer :=
  if (l.key.map (·.required)).getD false then none else some { l with key := none }

/-- Makes the node at this position the pending key if keys are allowed here. -/
def saveKey (l : Lexer) : Option Lexer :=
  if l.keyAllowed then do
    let c := l.cursor
    let required := !l.inFlow && l.indent == c.column
    let l ← l.dropKey
    return { l with key := some ⟨required, l.tokens.length, c.index, c.line, c.column⟩ }
  else some l

/-- A key is on one line and has at most 1024 characters. -/
def isStale (c : Cursor) (k : PendingKey) : Bool :=
  k.line < c.line || k.index + 1024 < c.index

def freshKey (c : Cursor) (key : Option PendingKey) : Option (Option PendingKey) :=
  match key with
  | none => some none
  | some k => if isStale c k then (if k.required then none else some none) else some (some k)

/-- Drops the pending keys that can no longer become keys. -/
def dropStaleKeys (l : Lexer) : Option Lexer := do
  let key ← freshKey l.cursor l.key
  let outerKeys ← l.outerKeys.mapM (freshKey l.cursor)
  return { l with key, outerKeys }

/-- Skips blanks, comments and line breaks. A tab counts as a blank if no key is allowed here. -/
def skipToToken : Nat → Lexer → Lexer
  | 0, l => l
  | fuel + 1, l =>
    let c := l.cursor
    let c := if c.column == 0 && c.isAt (Char.ofNat 0xFEFF) then c.skip 1 else c
    let tabs := l.inFlow || !l.keyAllowed
    let c := c.skipWhile fun ch => ch == ' ' || tabs && ch == '\t'
    let c := if c.isAt '#' then c.skipWhile fun ch => !isBreak ch else c
    match c.newLine? with
    | some (_, c) =>
      skipToToken fuel { l with cursor := c, keyAllowed := l.keyAllowed || !l.inFlow }
    | none => { l with cursor := c }

/-- Closes every block collection and drops every pending key. -/
def leaveDocument (l : Lexer) : Option Lexer := do
  let l ← (l.outdentTo (-1)).dropKey
  return { l with keyAllowed := false }

def readStreamEnd (l : Lexer) : Option Lexer := do
  return (← l.leaveDocument).emit .streamEnd

def readDirective (l : Lexer) : Option Lexer := do
  let l ← l.leaveDocument
  let (d, cursor) ← Property.directive? l.size l.cursor
  return { l with cursor }.emit (.directive d)

def readDivider (t : Token) (l : Lexer) : Option Lexer := do
  return (← l.leaveDocument).mark 3 t

def readFlowStart (t : Token) (l : Lexer) : Option Lexer := do
  let l ← l.saveKey
  return { l with key := none, outerKeys := l.key :: l.outerKeys, keyAllowed := true }.mark 1 t

def readFlowEnd (t : Token) (l : Lexer) : Option Lexer := do
  let l ← l.dropKey
  let l :=
    match l.outerKeys with
    | [] => l
    | key :: outerKeys => { l with key, outerKeys }
  return { l with keyAllowed := false }.mark 1 t

def readFlowEntry (l : Lexer) : Option Lexer := do
  let l ← l.dropKey
  return { l with keyAllowed := true }.mark 1 .flowEntry

def readBlockEntry (l : Lexer) : Option Lexer := do
  if !l.inFlow ∧ !l.keyAllowed then none
  else
    let l ← (l.indentTo l.cursor.column l.tokens.length .blockSequenceStart).dropKey
    return { l with keyAllowed := true }.mark 1 .blockEntry

/-- Reads the question mark of an explicit key. -/
def readKey (l : Lexer) : Option Lexer := do
  if !l.inFlow ∧ !l.keyAllowed then none
  else
    let l ← (l.indentTo l.cursor.column l.tokens.length .blockMappingStart).dropKey
    return { l with keyAllowed := !l.inFlow }.mark 1 .key

/-- Reads a colon, which turns the pending key into a key or follows an explicit key. -/
def readValue (l : Lexer) : Option Lexer :=
  match l.key with
  | some k =>
    let l := (l.insert k.number .key).indentTo k.column k.number .blockMappingStart
    some ({ l with key := none, keyAllowed := false }.mark 1 .value)
  | none =>
    if !l.inFlow ∧ !l.keyAllowed then none
    else
      let l := l.indentTo l.cursor.column l.tokens.length .blockMappingStart
      some ({ l with keyAllowed := !l.inFlow }.mark 1 .value)

def readName (t : String → Token) (l : Lexer) : Option Lexer := do
  let l ← l.saveKey
  let (name, cursor) ← Property.name? l.cursor
  return { l with cursor, keyAllowed := false }.emit (t name)

def readTag (l : Lexer) : Option Lexer := do
  let l ← l.saveKey
  let ((handle, text), cursor) ← Property.tag? l.inFlow l.size l.cursor
  return { l with cursor, keyAllowed := false }.emit (.tag handle text)

def readBlockScalar (literal : Bool) (l : Lexer) : Option Lexer := do
  let l ← l.dropKey
  let (text, cursor) ← Block.read? literal l.indent l.size l.cursor
  return { l with cursor, keyAllowed := true }.emit (.scalar false text)

def readQuoted (single : Bool) (l : Lexer) : Option Lexer := do
  let l ← l.saveKey
  let (text, cursor) ← Quotation.read? single l.size l.cursor
  return { l with cursor, keyAllowed := false }.emit (.scalar false text)

def readPlain (l : Lexer) : Option Lexer := do
  let l ← l.saveKey
  let (text, broken, cursor) ← Plain.read? l.inFlow (l.indent + 1).toNat l.size l.cursor
  return { l with cursor, keyAllowed := broken }.emit (.scalar true text)

/-- The indicators, with which no plain scalar starts. -/
def isIndicator (ch : Char) : Bool :=
  ['-', '?', ':', ',', '[', ']', '\x7b', '\x7d', '#', '&', '*', '!', '|', '>', '\'', '"', '%',
    '@', Char.ofNat 0x60].contains ch

/-- Whether a plain scalar starts here. Some indicators start one if no blank follows. -/
def startsPlain (l : Lexer) (ch : Char) : Bool :=
  let c := l.cursor
  !(isBlank ch || isBreak ch || isIndicator ch) ||
    ch == '-' && !(c.skip 1).sees isBlank ||
    !l.inFlow && (ch == '?' || ch == ':') && !c.spacedAt 1

/-- Reads the next token; the cursor is at its start. -/
def readToken (l : Lexer) : Option Lexer :=
  let c := l.cursor
  match c.rest with
  | [] => l.readStreamEnd
  | ch :: _ =>
    if c.column = 0 ∧ ch = '%' then l.readDirective
    else if c.atMarker '-' then l.readDivider .documentStart
    else if c.atMarker '.' then l.readDivider .documentEnd
    else if ch = '[' then l.readFlowStart .flowSequenceStart
    else if ch = '\x7b' then l.readFlowStart .flowMappingStart
    else if ch = ']' then l.readFlowEnd .flowSequenceEnd
    else if ch = '\x7d' then l.readFlowEnd .flowMappingEnd
    else if ch = ',' then l.readFlowEntry
    else if ch = '-' ∧ c.spacedAt 1 then l.readBlockEntry
    else if ch = '?' ∧ (l.inFlow ∨ c.spacedAt 1) then l.readKey
    else if ch = ':' ∧ (l.inFlow ∨ c.spacedAt 1) then l.readValue
    else if ch = '*' then l.readName .aliasOf
    else if ch = '&' then l.readName .anchor
    else if ch = '!' then l.readTag
    else if ch = '|' ∧ !l.inFlow then l.readBlockScalar true
    else if ch = '>' ∧ !l.inFlow then l.readBlockScalar false
    else if ch = '\'' then l.readQuoted true
    else if ch = '"' then l.readQuoted false
    else if l.startsPlain ch then l.readPlain
    else none

def readNext (l : Lexer) : Option Lexer := do
  let l ← (l.skipToToken l.size).dropStaleKeys
  (l.outdentTo l.cursor.column).readToken

/-- Reads tokens up to the end of the text. -/
def readAll : Nat → Lexer → Option (List Token)
  | 0, _ => none
  | fuel + 1, l => do
    let l ← l.readNext
    match l.tokens with
    | .streamEnd :: _ => return l.tokens.reverse
    | _ => readAll fuel l

end Lexer

/-- The characters that are allowed in a document. -/
def isAllowed (ch : Char) : Bool :=
  let n := ch.toNat
  n == 0x09 || n == 0x0A || n == 0x0D || (0x20 ≤ n && n ≤ 0x7E) || n == 0x85 ||
    (0xA0 ≤ n && n ≤ 0xD7FF) || (0xE000 ≤ n && n ≤ 0xFFFD) || 0x10000 ≤ n

/-- The tokens of a text. -/
def Token.ofText? (text : List Char) : Option (List Token) :=
  if text.all isAllowed then
    let l := Lexer.start text
    Lexer.readAll l.size l
  else none

end SchemaCheck.Yaml
