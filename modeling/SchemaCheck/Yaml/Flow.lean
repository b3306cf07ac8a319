import SchemaCheck.Json.Parser
import SchemaCheck.Yaml.Cursor

/-!
Scalars over several lines: quoted and plain ones. Their lines are folded: a single line break
between words becomes a blank, and of several line breaks the first one is dropped.
-/

namespace SchemaCheck.Yaml

/-- The white space between two words: blanks on one line, or line breaks, the first one and the
others. -/
inductive Gap where
  | blanks (text : List Char)
  | lines (first others : List Char)

namespace Gap

def text : Gap → List Char
  | blanks text => text
  | lines first others =>
    if first = ['\n'] then
      if others.isEmpty then [' '] else others
    else first ++ others

def isBroken : Gap → Bool
  | blanks _ => false
  | lines _ _ => true

/-- Reads a gap. On a new line there must be no tab left of the column `least`. -/
def read? (least : Nat) : Nat → Gap → Cursor → Option (Gap × Cursor)
  | 0, _, _ => none
  | fuel + 1, gap, c =>
    match c.rest with
    | [] => some (gap, c)
    | ch :: _ =>
      if isBlank ch then
        match gap with
        | blanks text => read? least fuel (blanks (text ++ [ch])) (c.skip 1)
        | lines _ _ =>
          if ch = '\t' ∧ c.column < least then none else read? least fuel gap (c.skip 1)
      else
        match c.newLine?, gap with
        | some (text, c), blanks _ => read? least fuel (lines text []) c
        | some (text, c), lines first others => read? least fuel (lines first (others ++ text)) c
        | none, gap => some (gap, c)

end Gap

namespace Quotation

/-- The character of a simple escape by its letter. -/
def escape? : Char → Option Char
  | '0' => some '\x00'
  | 'a' => some '\x07'
  | 'b' => some '\x08'
  | 't' => some '\t'
  | '\t' => some '\t'
  | 'n' => some '\n'
  | 'v' => some '\x0b'
  | 'f' => some '\x0c'
  | 'r' => some '\r'
  | 'e' => some '\x1b'
  | ' ' => some ' '
  | '"' => some '"'
  | '/' => some '/'
  | '\\' => some '\\'
  | 'N' => some (Char.ofNat 0x85)
  | '_' => some (Char.ofNat 0xA0)
  | 'L' => some (Char.ofNat 0x2028)
  | 'P' => some (Char.ofNat 0x2029)
  | _ => none

/-- The number of hexadecimal digits of an escape by its letter. -/
def codeLength? : Char → Option Nat
  | 'x' => some 2
  | 'u' => some 4
  | 'U' => some 8
  | _ => none

def codeChar? (length : Nat) (s : List Char) : Option Char := do
  let (n, _) ← Json.Parser.hexDigits 0 length s
  if (0xD800 ≤ n ∧ n ≤ 0xDFFF) ∨ 0x10FFFF < n then none else some (Char.ofNat n)

/-- The character of an escape and the position behind it; `c` is at the backslash. -/
def escaped? (c : Cursor) : Option (Char × Cursor) :=
  match c.rest with
  | _ :: letter :: rest =>
    match codeLength? letter with
    | some length => (codeChar? length rest).map fun ch => (ch, c.skip (2 + length))
    | none => (escape? letter).map fun ch => (ch, c.skip 2)
  | _ => none

def quote (single : Bool) : Char :=
  if single then '\'' else '"'

/-- Reads characters up to a blank, a line break, the closing quote or the end of the text. The flag
is set if an escaped line break was read last. `done` is reversed. -/
def word? (single : Bool) : Nat → List Char → Cursor → Option (List Char × Bool × Cursor)
  | 0, _, _ => none
  | fuel + 1, done, c =>
    match c.rest with
    | [] => some (done, false, c)
    | ch :: rest =>
      if isBlank ch || isBreak ch then some (done, false, c)
      else if ch = quote single then
        if single ∧ rest.head? = some ch then word? single fuel (ch :: done) (c.skip 2)
        else some (done, false, c)
      else if ch = '\\' ∧ !single then
        match (c.skip 1).newLine? with
        | some (_, c) => some (done, true, c)
        | none => do
          let (ch, c) ← escaped? c
          word? single fuel (ch :: done) c
      else word? single fuel (ch :: done) (c.skip 1)

def body? (single : Bool) (size : Nat) : Nat → List Char → Cursor → Option (List Char × Cursor)
  | 0, _, _ => none
  | fuel + 1, done, c =>
    if c.atDivider || c.atEnd then none
    else do
      let (done, folds, c) ← word? single size done c
      if c.isAt (quote single) then some (done.reverse, c.skip 1)
      else
        let (gap, c) ← Gap.read? 0 size (if folds then .lines [] [] else .blanks []) c
        body? single size fuel (gap.text.reverse ++ done) c

/-- The text of a quoted scalar and the position behind it; `c` is at the opening quote and `size`
exceeds the length of the text. -/
def read? (single : Bool) (size : Nat) (c : Cursor) : Option (String × Cursor) := do
  let (text, c) ← body? single size size [] (c.skip 1)
  return (String.ofList text, c)

end Quotation

namespace Plain

def isFlowMark (ch : Char) : Bool :=
  [',', '[', ']', '\x7b', '\x7d'].contains ch

/-- Reads characters up to a blank, a line break, the end of the text, or an indicator that ends
plain scalars. In flow collections no indicator may follow a colon. `done` is reversed. -/
def word? (inFlow : Bool) : List Char → List Char → Option (List Char)
  | done, [] => some done
  | done, ch :: rest =>
    if isBlank ch || isBreak ch then some done
    else if ch = ':' then
      match rest.head? with
      | none => some done
      | some next =>
        if inFlow && (isFlowMark next || next == '?') then none
        else if isBlank next || isBreak next then some done
        else word? inFlow (ch :: done) rest
    else if inFlow && isFlowMark ch then some done
    else word? inFlow (ch :: done) rest

/-- Reads the rest of a plain scalar behind a gap. Outside of flow collections its lines start at
the column `least` or beyond. The flag is set if line breaks follow the last word. -/
def body? (inFlow : Bool) (least size : Nat) :
    Nat → List Char → Gap → Cursor → Option (List Char × Bool × Cursor)
  | 0, _, _, _ => none
  | fuel + 1, done, gap, c =>
    if c.atDivider || c.isAt '#' then some (done.reverse, gap.isBroken, c)
    else do
      let word ← word? inFlow [] c.rest
      let c := c.skip word.length
      let done := if word.isEmpty then done else word ++ gap.text.reverse ++ done
      let gap := if word.isEmpty then gap else .blanks []
      if c.sees fun ch => isBlank ch || isBreak ch then
        let (gap, c) ← Gap.read? least size gap c
        if !inFlow ∧ c.column < least then some (done.reverse, gap.isBroken, c)
        else body? inFlow least size fuel done gap c
      else some (done.reverse, gap.isBroken, c)

def read? (inFlow : Bool) (least size : Nat) (c : Cursor) : Option (String × Bool × Cursor) := do
  let (text, broken, c) ← body? inFlow least size size [] (.blanks []) c
  return (String.ofList text, broken, c)

end Plain

end SchemaCheck.Yaml
