import SchemaCheck.Regex.Classes

/-!
The parser of patterns. There is no look-around and no back-reference. A pattern is rejected if it
does not conform to the grammar, if its syntax is nested too deeply, or if its automaton would be
too large.
-/

namespace SchemaCheck.Regex

/-- The inline flags in force at a position of the pattern. -/
structure Flags where
  ignoreCase : Bool
  multiLine : Bool
  dotAll : Bool
  anyLineEnd : Bool
  unicode : Bool
  /-- Blanks and comments between the parts of the pattern are ignored. -/
  extended : Bool

namespace Flags

def initial : Flags := ⟨false, false, false, false, true, false⟩

def set? (flags : Flags) (on : Bool) : Char → Option Flags
  | 'i' => some { flags with ignoreCase := on }
  | 'm' => some { flags with multiLine := on }
  | 's' => some { flags with dotAll := on }
  | 'R' => some { flags with anyLineEnd := on }
  | 'u' => some { flags with unicode := on }
  | 'x' => some { flags with extended := on }
  | 'U' => some flags
  | _ => none

end Flags

namespace Parser

def skipExtended (inComment : Bool) : List Char → List Char
  | [] => []
  | c :: rest =>
    if inComment then skipExtended (c != '\n') rest
    else if Classes.isBlank c then skipExtended false rest
    else if c = '#' then skipExtended true rest
    else c :: rest

/-- Drops blanks and comments if they are ignored. -/
def skip (flags : Flags) (s : List Char) : List Char :=
  if flags.extended then skipExtended false s else s

def hexValue? (c : Char) : Option Nat :=
  if '0' ≤ c ∧ c ≤ '9' then some (c.toNat - '0'.toNat)
  else if 'a' ≤ c ∧ c ≤ 'f' then some (c.toNat - 'a'.toNat + 10)
  else if 'A' ≤ c ∧ c ≤ 'F' then some (c.toNat - 'A'.toNat + 10)
  else none

def scalar? (n : Nat) : Option Nat :=
  if n < 0xD800 ∨ (0xDFFF < n ∧ n ≤ 0x10FFFF) then some n else none

/-- The number with exactly `count` hexadecimal digits. -/
def fixedHex (flags : Flags) (value : Nat) : Nat → List Char → Option (Nat × List Char)
  | 0, s => some (value, s)
  | count + 1, s =>
    match skip flags s with
    | [] => none
    | c :: rest => do
      let digit ← hexValue? c
      fixedHex flags (value * 16 + digit) count rest

/-- The number with the hexadecimal digits before a closing brace. -/
def bracedHex (flags : Flags) (value : Option Nat) : List Char → Option (Nat × List Char)
  | [] => none
  | c :: rest =>
    if c = '\x7d' then value.map fun n => (n, rest)
    else if flags.extended ∧ Classes.isBlank c then bracedHex flags value rest
    else do
      let digit ← hexValue? c
      let n := value.getD 0 * 16 + digit
      if 0x10FFFF < n then none else bracedHex flags (some n) rest

/-- The code point after `\x`, `\u` or `\U`, with 2, 4 or 8 digits if there are no braces. -/
def hexEscape (flags : Flags) (count : Nat) (s : List Char) : Option (Nat × List Char) := do
  let (n, rest) ←
    match skip flags s with
    | '\x7b' :: rest => bracedHex flags none (skip flags rest)
    | s => fixedHex flags 0 count s
  let n ← scalar? n
  some (n, rest)

/-- The meaning of an escape or of a single item of a class. -/
inductive Atom where
  | char (n : Nat)
  | set (s : CharSet)
  | look (l : Look)

/-- Characters that stand for themselves after a backslash. -/
def isEscapable (c : Char) : Bool :=
  c.toNat < 0x80 && !c.isAlphanum && c != '<' && c != '>'

/-- The text up to a closing brace, and the rest behind it. -/
def untilBrace (flags : Flags) : List Char → Option (List Char × List Char)
  | [] => none
  | c :: rest =>
    if c = '\x7d' then some ([], rest)
    else do
      let (text, after) ← untilBrace flags rest
      some (if flags.extended && Classes.isBlank c then text else c :: text, after)

def negateIf (negated : Bool) (s : CharSet) : CharSet :=
  if negated then .complement s else s

def foldIf (flags : Flags) (s : CharSet) : CharSet :=
  if flags.ignoreCase then (if flags.unicode then .folded s else .foldedAscii s) else s

/-- Without Unicode only subsets of ASCII are allowed. -/
def checked? (flags : Flags) (s : CharSet) : Option CharSet :=
  if flags.unicode then some s
  else if (List.range 0x80).any fun n => s.contains (n + 0x80) then none
  else some s

/-- A class by property, after `\p` or `\P`. -/
def propertyEscape (flags : Flags) (negated : Bool) (s : List Char) :
    Option (Atom × List Char) := do
  if !flags.unicode then none
  else
    let (set, rest) ←
      match skip flags s with
      | [] => none
      | '\\' :: _ => none
      | '\x7b' :: rest => do
        let (text, rest) ← untilBrace flags rest
        let set ← Classes.braced? text
        some (set, rest)
      | c :: rest => do
        let set ← Classes.named? [c]
        some (set, rest)
    some (.set (negateIf negated (foldIf flags set)), rest)

/-- The condition for a name in braces after `\b`. -/
def boundaryNamed? (word : CharSet) : List Char → Option Look
  | ['s', 't', 'a', 'r', 't'] => some (.wordStart word)
  | ['e', 'n', 'd'] => some (.wordEnd word)
  | ['s', 't', 'a', 'r', 't', '-', 'h', 'a', 'l', 'f'] => some (.wordStartHalf word)
  | ['e', 'n', 'd', '-', 'h', 'a', 'l', 'f'] => some (.wordEndHalf word)
  | _ => none

/-- `\b`, with an optional name in braces. Braces that begin with anything but a letter or a hyphen
are a repetition. -/
def boundaryEscape (flags : Flags) (s : List Char) : Option (Atom × List Char) :=
  let word := Classes.word flags.unicode
  match s with
  | '\x7b' :: rest =>
    match skip flags rest with
    | [] => none
    | c :: rest =>
      if c.isAlpha ∨ c = '-' then do
        let (name, rest) ← untilBrace flags (c :: rest)
        let look ← boundaryNamed? word name
        some (.look look, rest)
      else some (.look (.boundary word), s)
  | s => some (.look (.boundary word), s)

def classEscape (flags : Flags) (negated : Bool) (s : CharSet) (rest : List Char) :
    Option (Atom × List Char) := do
  let s ← checked? flags (negateIf negated s)
  some (.set s, rest)

/-- The rest of an escape behind its backslash. -/
def escape (flags : Flags) : List Char → Option (Atom × List Char)
  | [] => none
  | 'x' :: rest => do
    let (n, rest) ← hexEscape flags 2 rest
    if !flags.unicode ∧ 0x80 ≤ n ∧ n ≤ 0xFF then none else some (.char n, rest)
  | 'u' :: rest => (hexEscape flags 4 rest).map fun r => (.char r.1, r.2)
  | 'U' :: rest => (hexEscape flags 8 rest).map fun r => (.char r.1, r.2)
  | 'p' :: rest => propertyEscape flags false rest
  | 'P' :: rest => propertyEscape flags true rest
  | 'd' :: rest => classEscape flags false (Classes.digit flags.unicode) rest
  | 'D' :: rest => classEscape flags true (Classes.digit flags.unicode) rest
  | 's' :: rest => classEscape flags false (Classes.space flags.unicode) rest
  | 'S' :: rest => classEscape flags true (Classes.space flags.unicode) rest
  | 'w' :: rest => classEscape flags false (Classes.word flags.unicode) rest
  | 'W' :: rest => classEscape flags true (Classes.word flags.unicode) rest
  | 'a' :: rest => some (.char 0x07, rest)
  | 'f' :: rest => some (.char 0x0C, rest)
  | 't' :: rest => some (.char 0x09, rest)
  | 'n' :: rest => some (.char 0x0A, rest)
  | 'r' :: rest => some (.char 0x0D, rest)
  | 'v' :: rest => some (.char 0x0B, rest)
  | 'A' :: rest => some (.look .textStart, rest)
  | 'z' :: rest => some (.look .textEnd, rest)
  | 'b' :: rest => boundaryEscape flags rest
  | 'B' :: rest => some (.look (.noBoundary (Classes.word flags.unicode)), rest)
  | '<' :: rest => some (.look (.wordStart (Classes.word flags.unicode)), rest)
  | '>' :: rest => some (.look (.wordEnd (Classes.word flags.unicode)), rest)
  | c :: rest => if isEscapable c then some (.char c.toNat, rest) else none

/-- A single item of a bracketed class, which may be the start of a range. -/
def classAtom (flags : Flags) : List Char → Option (Atom × List Char)
  | [] => none
  | '\\' :: rest => escape flags rest
  | c :: rest => some (.char c.toNat, rest)

def Atom.toSet? : Atom → Option CharSet
  | .char n => some (.single n)
  | .set s => some s
  | .look _ => none

/-- An item of a bracketed class: a character, a class or a range of characters. -/
def classRange (flags : Flags) (s : List Char) : Option (CharSet × List Char) := do
  let (first, rest) ← classAtom flags s
  let single := do
    let set ← first.toSet?
    some (set, skip flags rest)
  match skip flags rest with
  | [] => none
  | '-' :: after =>
    match skip flags after with
    | ']' :: _ => single
    | '-' :: _ => single
    | [] => none
    | after => do
      let (last, rest) ← classAtom flags after
      match first, last with
      | .char low, .char high => if low ≤ high then some (.ranges [(low, high)], rest) else none
      | _, _ => none
  | _ => single

/-- `[:name:]` or `[:^name:]`, after its bracket. -/
def asciiClass? (s : List Char) : Option (CharSet × List Char) :=
  match s with
  | ':' :: rest =>
    let (negated, rest) := match rest with
      | '^' :: rest => (true, rest)
      | rest => (false, rest)
    let name := rest.takeWhile (· != ':')
    match rest.dropWhile (· != ':') with
    | ':' :: ']' :: rest =>
      (Classes.ascii? (String.ofList name)).map fun rs => (negateIf negated (.ranges rs), rest)
    | _ => none
  | _ => none

inductive SetOp where
  | inter | diff | symmDiff

def SetOp.apply : SetOp → CharSet → CharSet → CharSet
  | inter, a, b => .inter a b
  | diff, a, b => .diff a b
  | symmDiff, a, b => .symmDiff a b

/-- A set with the nesting depth of its syntax, which counts bracketed classes, operators and unions
of several items. -/
structure ClassSet where
  set : CharSet
  nesting : Nat

/-- The bracketed class with this content. -/
def ClassSet.bracketed? (flags : Flags) (negated : Bool) (content : ClassSet) : Option ClassSet :=
  (checked? flags (negateIf negated (foldIf flags content.set))).map fun set =>
    ⟨set, content.nesting + 1⟩

def ClassSet.toRegex (c : ClassSet) : Regex :=
  .nested c.nesting (.oneOf c.set)

/-- The part of a bracketed class that has been read: the left side of the last operator, if any,
and the union of the items after it, with their number and the depth of the deepest one. -/
structure OpenClass where
  pending : Option (SetOp × ClassSet)
  items : CharSet
  count : Nat
  deepest : Nat

namespace OpenClass

def start : OpenClass := ⟨none, .empty, 0, 0⟩

def add (c : OpenClass) (item : ClassSet) : OpenClass :=
  { c with
    items := .union c.items item.set
    count := c.count + 1
    deepest := max c.deepest item.nesting }

/-- Adds an item that contains no other class. -/
def addSet (c : OpenClass) (s : CharSet) : OpenClass :=
  c.add ⟨s, 0⟩

/-- The union of the items after the last operator. A single item adds no nesting level. -/
def union (c : OpenClass) : ClassSet :=
  ⟨c.items, if c.count ≤ 1 then c.deepest else c.deepest + 1⟩

/-- Operators associate to the left, and case is folded on both sides first. -/
def combine (flags : Flags) (c : OpenClass) : ClassSet :=
  match c.pending with
  | none => c.union
  | some (op, left) =>
    ⟨op.apply (foldIf flags left.set) (foldIf flags c.union.set),
      max left.nesting c.union.nesting + 1⟩

def operator (flags : Flags) (op : SetOp) (c : OpenClass) : OpenClass :=
  { start with pending := some (op, c.combine flags) }

end OpenClass

/-- Hyphens at the start of a class stand for themselves, and so does a closing bracket at the
start. -/
def leadingItems (flags : Flags) (c : OpenClass) (first : Bool) :
    List Char → Option (OpenClass × List Char)
  | [] => none
  | '-' :: rest =>
    match skip flags rest with
    | [] => none
    | _ => leadingItems flags (c.addSet (.single '-'.toNat)) false rest
  | ']' :: rest =>
    if first then
      match skip flags rest with
      | [] => none
      | rest => some (c.addSet (.single ']'.toNat), rest)
    else some (c, ']' :: rest)
  | ch :: rest =>
    if flags.extended ∧ Classes.isBlank ch then leadingItems flags c first rest
    else some (c, ch :: rest)

mutual

/-- A bracketed class after its opening bracket. -/
def bracketed (fuel : Nat) (flags : Flags) (s : List Char) : Option (ClassSet × List Char) :=
  match fuel with
  | 0 => none
  | fuel + 1 => do
    let (negated, s) := match skip flags s with
      | '^' :: rest => (true, skip flags rest)
      | s => (false, s)
    let (c, s) ← leadingItems flags .start true s
    let (content, rest) ← classItems fuel flags c s
    let c ← content.bracketed? flags negated
    some (c, rest)

def classItems (fuel : Nat) (flags : Flags) (c : OpenClass) (s : List Char) :
    Option (ClassSet × List Char) :=
  match fuel with
  | 0 => none
  | fuel + 1 =>
    match skip flags s with
    | [] => none
    | '[' :: rest =>
      match asciiClass? rest with
      | some (set, rest) => classItems fuel flags (c.addSet set) rest
      | none => do
        let (item, rest) ← bracketed fuel flags rest
        classItems fuel flags (c.add item) rest
    | ']' :: rest => some (c.combine flags, rest)
    | '&' :: '&' :: rest => classItems fuel flags (c.operator flags .inter) rest
    | '-' :: '-' :: rest => classItems fuel flags (c.operator flags .diff) rest
    | '~' :: '~' :: rest => classItems fuel flags (c.operator flags .symmDiff) rest
    | s => do
      let (set, rest) ← classRange flags s
      classItems fuel flags (c.addSet set) rest

end

/-- The flags in force and the group names in use. -/
structure Context where
  flags : Flags
  names : List String

/-- The flags between `(?` and a colon or a closing bracket; `seen` holds those already given. -/
def flagItems (flags : Flags) (on : Bool) (seen : List Char) :
    List Char → Option (Flags × Bool × List Char)
  | [] => none
  | ':' :: rest => some (flags, true, rest)
  | ')' :: rest => if seen.isEmpty then none else some (flags, false, rest)
  | '-' :: rest =>
    if !on then none
    else
      match rest with
      | [] => none
      | ':' :: _ => none
      | ')' :: _ => none
      | rest => flagItems flags false seen rest
  | c :: rest =>
    if seen.contains c then none
    else do
      let flags ← flags.set? on c
      flagItems flags on (c :: seen) rest

def isNameChar (first : Bool) (c : Char) : Bool :=
  if c.toNat < 0x80 then
    c == '_' || c.isAlpha || !first && (c.isDigit || c == '.' || c == '[' || c == ']')
  else
    (Classes.property "alphabetic").contains c.toNat ||
      !first && (Classes.category "n").contains c.toNat

/-- A group name up to its closing angle, not in use yet. -/
def groupName (ctx : Context) (s : List Char) : Option (Context × List Char) :=
  let name := s.takeWhile (· != '>')
  match name, s.dropWhile (· != '>') with
  | c :: cs, '>' :: rest =>
    let text := String.ofList name
    if isNameChar true c && cs.all (isNameChar false) && !ctx.names.contains text then
      some ({ ctx with names := text :: ctx.names }, rest)
    else none
  | _, _ => none

def decimal (s : List Char) : Option (Nat × List Char) :=
  let s := s.dropWhile Classes.isBlank
  match s.takeWhile Char.isDigit with
  | [] => none
  | digits =>
    let n := digits.foldl (fun n c => n * 10 + (c.toNat - '0'.toNat)) 0
    if n < 0x100000000 then some (n, (s.dropWhile Char.isDigit).dropWhile Classes.isBlank) else none

/-- The counts of a repetition, after its opening brace. -/
def counts (flags : Flags) (s : List Char) : Option ((Nat × Option Nat) × List Char) := do
  let (least, rest) ← decimal (skip flags s)
  match rest with
  | '\x7d' :: rest => some ((least, some least), rest)
  | ',' :: rest =>
    match skip flags rest with
    | '\x7d' :: rest => some ((least, none), rest)
    | rest =>
      let (most, rest) ← decimal rest
      match rest with
      | '\x7d' :: rest => if least ≤ most then some ((least, some most), rest) else none
      | _ => none
  | _ => none

/-- Skips a question mark after a repetition, which does not affect whether there is a match. -/
def skipLazy (flags : Flags) (s : List Char) : List Char :=
  match skip flags s with
  | '?' :: rest => rest
  | s => s

def literal (flags : Flags) (n : Nat) : Regex :=
  .oneOf (foldIf flags (.single n))

def Atom.toRegex (flags : Flags) : Atom → Regex
  | .char n => literal flags n
  | .set s => .oneOf s
  | .look l => .look l

def dot? (flags : Flags) : Option Regex :=
  if !flags.unicode then none
  else if flags.dotAll then some (.oneOf .any)
  else if flags.anyLineEnd then some (.oneOf (.complement (.ranges [(0x0A, 0x0A), (0x0D, 0x0D)])))
  else some (.oneOf (.complement (.single 0x0A)))

def startLook (flags : Flags) : Look :=
  if !flags.multiLine then .textStart
  else if flags.anyLineEnd then .anyLineStart
  else .lineStart

def endLook (flags : Flags) : Look :=
  if !flags.multiLine then .textEnd
  else if flags.anyLineEnd then .anyLineEnd
  else .lineEnd

/-- The part of a group that has been read: the finished alternatives, the current alternative
without its last part, and this last part, which a repetition can still apply to. -/
structure OpenGroup where
  done : Option Regex
  before : Regex
  last : Option Regex

namespace OpenGroup

def start : OpenGroup := ⟨none, .empty, none⟩

/-- The current alternative so far. -/
def current (g : OpenGroup) : Regex :=
  match g.before, g.last with
  | before, none => before
  | .empty, some r => r
  | before, some r => .seq before r

def push (g : OpenGroup) (r : Regex) : OpenGroup :=
  { g with before := g.current, last := some r }

/-- Adds a change of flags, to which no repetition applies. -/
def breakOff (g : OpenGroup) : OpenGroup :=
  { g with before := (g.push .setFlags).current, last := none }

def close (g : OpenGroup) : Regex :=
  match g.done with
  | none => g.current
  | some r => .alt r g.current

def nextAlternative (g : OpenGroup) : OpenGroup :=
  ⟨some g.close, .empty, none⟩

def repeatLast? (g : OpenGroup) (least : Nat) (most : Option Nat) : Option OpenGroup :=
  g.last.map fun r => { g with last := some (.repeated r least most) }

end OpenGroup

mutual

/-- The rest of a group, up to its closing bracket or the end of the pattern. -/
def parts (fuel : Nat) (ctx : Context) (g : OpenGroup) (s : List Char) :
    Option (Regex × Context × List Char) :=
  match fuel with
  | 0 => none
  | fuel + 1 =>
    let flags := ctx.flags
    match skip flags s with
    | [] => some (g.close, ctx, [])
    | ')' :: rest => some (g.close, ctx, ')' :: rest)
    | '|' :: rest => parts fuel ctx g.nextAlternative rest
    | '(' :: rest => group fuel ctx g rest
    | '[' :: rest => do
      let (c, rest) ← bracketed (2 * rest.length + 2) flags rest
      parts fuel ctx (g.push c.toRegex) rest
    | '?' :: rest => do
      let g ← g.repeatLast? 0 (some 1)
      parts fuel ctx g (skipLazy flags rest)
    | '*' :: rest => do
      let g ← g.repeatLast? 0 none
      parts fuel ctx g (skipLazy flags rest)
    | '+' :: rest => do
      let g ← g.repeatLast? 1 none
      parts fuel ctx g (skipLazy flags rest)
    | '\x7b' :: rest => do
      let ((least, most), rest) ← counts flags rest
      let g ← g.repeatLast? least most
      parts fuel ctx g (skipLazy flags rest)
    | '\\' :: rest => do
      let (atom, rest) ← escape flags rest
      parts fuel ctx (g.push (atom.toRegex flags)) rest
    | '.' :: rest => do
      let r ← dot? flags
      parts fuel ctx (g.push r) rest
    | '^' :: rest => parts fuel ctx (g.push (.look (startLook flags))) rest
    | '$' :: rest => parts fuel ctx (g.push (.look (endLook flags))) rest
    | c :: rest => parts fuel ctx (g.push (literal flags c.toNat)) rest

/-- A group after its opening bracket, and the rest of the group around it. Flags set inside end
with the group. -/
def group (fuel : Nat) (ctx : Context) (g : OpenGroup) (s : List Char) :
    Option (Regex × Context × List Char) :=
  match fuel with
  | 0 => none
  | fuel + 1 => do
    let inner (inside : Context) (s : List Char) : Option (Regex × Context × List Char) := do
      let (r, after, rest) ← parts fuel inside .start s
      match rest with
      | ')' :: rest => parts fuel { after with flags := ctx.flags } (g.push (.nested 1 r)) rest
      | _ => none
    match skip ctx.flags s with
    | '?' :: 'P' :: '<' :: rest =>
      let (inside, rest) ← groupName ctx rest
      inner inside rest
    | '?' :: '<' :: rest =>
      let (inside, rest) ← groupName ctx rest
      inner inside rest
    | '?' :: rest =>
      let (flags, isGroup, rest) ← flagItems ctx.flags true [] rest
      if isGroup then inner { ctx with flags } rest
      else parts fuel { ctx with flags } g.breakOff rest
    | s => inner ctx s

end

end Parser

/-- The size limit of automata, in states as they are estimated by `Regex.weight`. -/
def weightLimit : Nat := 437000

/-- The nesting limit of syntax trees. -/
def nestLimit : Nat := 250

/-- The expression of a pattern. -/
def parse? (pattern : String) : Option Regex := do
  let s := pattern.toList
  let (r, _, rest) ← Parser.parts (2 * s.length + 2) ⟨.initial, []⟩ .start s
  match rest with
  | [] => if r.nesting ≤ nestLimit ∧ r.weight ≤ weightLimit then some r else none
  | _ => none

end SchemaCheck.Regex
