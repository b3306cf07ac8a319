import SchemaCheck.Json.Basic

/-!
Reading document values from text. The grammar is strict and bounds the nesting of containers;
`written?` keeps the members of each object as the text lists them, and `parse?` sorts them and
keeps the last of equal keys.
-/

namespace SchemaCheck.Json

namespace Parser

def skipBlank (s : List Char) : List Char :=
  s.dropWhile fun c => c = ' ' ∨ c = '\n' ∨ c = '\t' ∨ c = '\r'

def hexValue? (c : Char) : Option Nat :=
  if '0' ≤ c ∧ c ≤ '9' then some (c.toNat - '0'.toNat)
  else if 'a' ≤ c ∧ c ≤ 'f' then some (c.toNat - 'a'.toNat + 10)
  else if 'A' ≤ c ∧ c ≤ 'F' then some (c.toNat - 'A'.toNat + 10)
  else none

/-- The value of exactly `count` hexadecimal digits. -/
def hexDigits (value : Nat) : Nat → List Char → Option (Nat × List Char)
  | 0, s => some (value, s)
  | _ + 1, [] => none
  | count + 1, c :: rest => do
    let digit ← hexValue? c
    hexDigits (value * 16 + digit) count rest

/-- The character after `\u`. A high surrogate takes the low one that must follow it. -/
def unicodeEscape (s : List Char) : Option (Char × List Char) := do
  let (unit, rest) ← hexDigits 0 4 s
  if 0xDC00 ≤ unit ∧ unit ≤ 0xDFFF then none
  else if 0xD800 ≤ unit ∧ unit ≤ 0xDBFF then
    match rest with
    | '\\' :: 'u' :: rest =>
      let (low, rest) ← hexDigits 0 4 rest
      if 0xDC00 ≤ low ∧ low ≤ 0xDFFF then
        some (Char.ofNat (0x10000 + (unit - 0xD800) * 0x400 + (low - 0xDC00)), rest)
      else none
    | _ => none
  else some (Char.ofNat unit, rest)

def simpleEscape? : Char → Option Char
  | '"' => some '"'
  | '\\' => some '\\'
  | '/' => some '/'
  | 'b' => some '\x08'
  | 'f' => some '\x0c'
  | 'n' => some '\n'
  | 'r' => some '\r'
  | 't' => some '\t'
  | _ => none

/-- The rest of a string after its opening quote; `done` holds the characters read so far in
reverse. -/
def stringBody (done : List Char) : Nat → List Char → Option (String × List Char)
  | 0, _ => none
  | _ + 1, [] => none
  | _ + 1, '"' :: rest => some (String.ofList done.reverse, rest)
  | fuel + 1, '\\' :: 'u' :: rest => do
    let (c, rest) ← unicodeEscape rest
    stringBody (c :: done) fuel rest
  | fuel + 1, '\\' :: e :: rest => do
    let c ← simpleEscape? e
    stringBody (c :: done) fuel rest
  | fuel + 1, c :: rest =>
    if c = '\\' ∨ c.toNat < 0x20 then none else stringBody (c :: done) fuel rest

def digits (s : List Char) : List Char × List Char :=
  (s.takeWhile Char.isDigit, s.dropWhile Char.isDigit)

/-- Digits without a leading zero, except for `0` itself. -/
def wholePart (s : List Char) : Option (List Char × List Char) :=
  match digits s with
  | ([], _) => none
  | ('0' :: _ :: _, _) => none
  | part => some part

def fractionPart : List Char → Option (Option (List Char) × List Char)
  | '.' :: s =>
    match digits s with
    | ([], _) => none
    | (ds, rest) => some (some ds, rest)
  | s => some (none, s)

def natOfDigits (ds : List Char) : Nat :=
  ds.foldl (fun n c => n * 10 + (c.toNat - '0'.toNat)) 0

def exponentDigits (negative : Bool) (s : List Char) : Option (Option Int × List Char) :=
  match digits s with
  | ([], _) => none
  | (ds, rest) =>
    let n : Int := natOfDigits ds
    some (some (if negative then -n else n), rest)

def exponentPart : List Char → Option (Option Int × List Char)
  | e :: s =>
    if e = 'e' ∨ e = 'E' then
      match s with
      | '+' :: s => exponentDigits false s
      | '-' :: s => exponentDigits true s
      | s => exponentDigits false s
    else some (none, e :: s)
  | [] => some (none, [])

def numberLiteral (s : List Char) : Option (Number × List Char) := do
  let (negative, s) := match s with
    | '-' :: s => (true, s)
    | s => (false, s)
  let (whole, s) ← wholePart s
  let (fraction, s) ← fractionPart s
  let (exponent, s) ← exponentPart s
  let n ← Number.ofLiteral? negative whole fraction exponent
  some (n, s)

mutual

/-- A value and the rest of the text. At most `depth` more containers may be opened; `fuel` exceeds
twice the length of the text. -/
def value (fuel depth : Nat) (s : List Char) : Option (Json × List Char) :=
  match fuel with
  | 0 => none
  | fuel + 1 =>
    match skipBlank s with
    | 'n' :: 'u' :: 'l' :: 'l' :: rest => some (null, rest)
    | 't' :: 'r' :: 'u' :: 'e' :: rest => some (bool true, rest)
    | 'f' :: 'a' :: 'l' :: 's' :: 'e' :: rest => some (bool false, rest)
    | '"' :: rest => do
      let (text, rest) ← stringBody [] (rest.length + 1) rest
      some (string text, rest)
    | '[' :: rest =>
      match depth with
      | 0 => none
      | depth + 1 =>
        match skipBlank rest with
        | ']' :: rest => some (array [], rest)
        | rest => do
          let (items, rest) ← items fuel depth rest
          some (array items, rest)
    | '\x7b' :: rest =>
      match depth with
      | 0 => none
      | depth + 1 =>
        match skipBlank rest with
        | '\x7d' :: rest => some (object [], rest)
        | rest => do
          let (entries, rest) ← entries fuel depth rest
          some (object entries, rest)
    | s => do
      let (n, rest) ← numberLiteral s
      some (number n, rest)

def items (fuel depth : Nat) (s : List Char) : Option (List Json × List Char) :=
  match fuel with
  | 0 => none
  | fuel + 1 => do
    let (j, rest) ← value fuel depth s
    match skipBlank rest with
    | ',' :: rest =>
      let (js, rest) ← items fuel depth rest
      some (j :: js, rest)
    | ']' :: rest => some ([j], rest)
    | _ => none

def entries (fuel depth : Nat) (s : List Char) :
    Option (List (String × Json) × List Char) :=
  match fuel with
  | 0 => none
  | fuel + 1 =>
    match skipBlank s with
    | '"' :: rest => do
      let (key, rest) ← stringBody [] (rest.length + 1) rest
      match skipBlank rest with
      | ':' :: rest =>
        let (j, rest) ← value fuel depth rest
        match skipBlank rest with
        | ',' :: rest =>
          let (more, rest) ← entries fuel depth rest
          some ((key, j) :: more, rest)
        | '\x7d' :: rest => some ([(key, j)], rest)
        | _ => none
      | _ => none
    | _ => none

end

end Parser

mutual

/-- Every object sorted by key, the last of equal keys kept. -/
def sorted : Json → Json
  | array items => array (sortedItems items)
  | object members => object (Members.ofList (sortedMembers members))
  | j => j

def sortedItems : List Json → List Json
  | [] => []
  | j :: rest => sorted j :: sortedItems rest

def sortedMembers : List (String × Json) → List (String × Json)
  | [] => []
  | (key, j) :: rest => (key, sorted j) :: sortedMembers rest

end

/-- The greatest number of containers inside each other. -/
def nestingLimit : Nat := 127

/-- The value of a whole text, with the members of objects as written, repeated keys included. -/
def written? (text : String) : Option Json := do
  let s := text.toList
  let (j, rest) ← Parser.value (2 * s.length + 2) nestingLimit s
  match Parser.skipBlank rest with
  | [] => some j
  | _ => none

def parse? (text : String) : Option Json :=
  (written? text).map sorted

end SchemaCheck.Json
