import SchemaCheck.Text.Percent
import SchemaCheck.Unicode.Folding

/-!
Hosts: domain names in ASCII form, and numeric addresses in normal form.
-/

namespace SchemaCheck.Url

inductive ParseError where
  | emptyHost
  | badDomainName
  | badPort
  | badIpv4
  | badIpv6
  | badDomainCharacter
  | noBase
  | baseWithoutHierarchy
  deriving DecidableEq

def ParseError.message : ParseError → String
  | emptyHost => "empty host"
  | badDomainName => "invalid international domain name"
  | badPort => "invalid port number"
  | badIpv4 => "invalid IPv4 address"
  | badIpv6 => "invalid IPv6 address"
  | badDomainCharacter => "invalid domain character"
  | noBase => "relative URL without a base"
  | baseWithoutHierarchy => "relative URL with a cannot-be-a-base base"

namespace Host

/-- The parts of a text between the occurrences of a separator. -/
def splitOn (separator : Char) : List Char → List (List Char)
  | [] => [[]]
  | c :: rest =>
    if c = separator then [] :: splitOn separator rest
    else
      match splitOn separator rest with
      | [] => [[c]]
      | part :: parts => (c :: part) :: parts

def hexValue? (c : Char) : Option Nat :=
  if '0' ≤ c ∧ c ≤ '9' then some (c.toNat - '0'.toNat)
  else if 'a' ≤ c ∧ c ≤ 'f' then some (c.toNat - 'a'.toNat + 10)
  else if 'A' ≤ c ∧ c ≤ 'F' then some (c.toNat - 'A'.toNat + 10)
  else none

/-- The number with the given digits in a base. -/
def number? (base value : Nat) : List Char → Option Nat
  | [] => some value
  | c :: rest => do
    let digit ← hexValue? c
    if digit < base then number? base (value * base + digit) rest else none

/-- A part of a dotted address: hexadecimal after `0x`, octal after `0`, or decimal. -/
def ipv4Number? : List Char → Option Nat
  | [] => none
  | '0' :: x :: rest =>
    if x = 'x' ∨ x = 'X' then number? 16 0 rest else number? 8 0 (x :: rest)
  | s => number? 10 0 s

def endsInNumber (domain : List Char) : Bool :=
  let parts := splitOn '.' domain
  let last :=
    match parts.reverse with
    | [] :: part :: _ => some part
    | part :: _ => some part
    | [] => none
  match last with
  | none => false
  | some part => !part.isEmpty && part.all Char.isDigit || (ipv4Number? part).isSome

/-- Four numbers of one byte each, or fewer numbers of which the last one fills the remaining
bytes. -/
def ipv4? (domain : List Char) : Option Nat := do
  let parts := splitOn '.' domain
  let parts := if parts.getLast? = some [] then parts.dropLast else parts
  if 4 < parts.length then none
  else
    let numbers ← parts.mapM ipv4Number?
    let last ← numbers.getLast?
    let front := numbers.dropLast
    if front.any (255 < ·) ∨ Nat.pow 256 (4 - front.length) ≤ last then none
    else some (front.foldr (fun n rest => n * 0x1000000 + rest / 256) 0 + last)

def writeIpv4 (address : Nat) : String :=
  String.intercalate "." ([24, 16, 8, 0].map fun shift => toString (address / Nat.pow 2 shift % 256))

/-- Groups of an address, up to a double colon or the end. The last one may be a dotted address. -/
def ipv6Groups? : List (List Char) → Option (List Nat)
  | [] => some []
  | [part] =>
    if part.contains '.' then do
      let bytes ← (splitOn '.' part).mapM fun digits =>
        match digits with
        | [] => none
        | '0' :: _ :: _ => none
        | digits => number? 10 0 digits
      if bytes.length = 4 ∧ bytes.all (· ≤ 255) then
        some [bytes.getD 0 0 * 256 + bytes.getD 1 0, bytes.getD 2 0 * 256 + bytes.getD 3 0]
      else none
    else if part.isEmpty ∨ 4 < part.length then none
    else (number? 16 0 part).map ([·])
  | part :: parts =>
    if part.isEmpty ∨ 4 < part.length then none
    else do
      let n ← number? 16 0 part
      let rest ← ipv6Groups? parts
      some (n :: rest)

def groupsOf? (s : List Char) : Option (List Nat) :=
  if s.isEmpty then some [] else ipv6Groups? (splitOn ':' s)

/-- The texts around the first double colon. -/
def splitCompressed : List Char → Option (List Char × List Char)
  | [] => none
  | ':' :: ':' :: rest => some ([], rest)
  | c :: rest => (splitCompressed rest).map fun parts => (c :: parts.1, parts.2)

/-- The eight groups of an address, where a double colon abbreviates one or more zero groups. -/
def ipv6? (s : List Char) : Option (List Nat) := do
  match splitCompressed s with
  | none =>
    let groups ← groupsOf? s
    if groups.length = 8 then some groups else none
  | some (front, back) =>
    if front.contains '.' then none
    else
      let front ← groupsOf? front
      let back ← groupsOf? back
      if front.length + back.length ≤ 7 then
        some (front ++ List.replicate (8 - front.length - back.length) 0 ++ back)
      else none

/-- The start and length of the first longest run of at least two zero groups. -/
def longestZeros (groups : List Nat) : Option (Nat × Nat) :=
  let runs := (List.range groups.length).map fun i =>
    (i, ((groups.drop i).takeWhile (· = 0)).length)
  runs.foldl
    (fun best run =>
      match best with
      | some (_, length) => if length < run.2 then some run else best
      | none => if 2 ≤ run.2 then some run else none)
    none

def lowerHex (n : Nat) : String :=
  String.ofList (Nat.toDigits 16 n)

def writeIpv6 (groups : List Nat) : String :=
  let join (gs : List Nat) := String.intercalate ":" (gs.map lowerHex)
  let text :=
    match longestZeros groups with
    | some (start, length) => join (groups.take start) ++ "::" ++ join (groups.drop (start + length))
    | none => join groups
  "[" ++ text ++ "]"

/-- The next bias of the variable-length integers in an encoded label. -/
def adapt (delta points : Nat) (first : Bool) : Nat :=
  let delta := if first then delta / 700 else delta / 2
  let delta := delta + delta / points
  shrink 32 0 delta
where
  shrink : Nat → Nat → Nat → Nat
    | 0, k, delta => k + 36 * delta / (delta + 38)
    | fuel + 1, k, delta =>
      if 455 < delta then shrink fuel (k + 36) (delta / 35) else k + 36 * delta / (delta + 38)

def threshold (k bias : Nat) : Nat :=
  if k ≤ bias then 1 else if bias + 26 ≤ k then 26 else k - bias

def labelDigit (n : Nat) : Char :=
  if n < 26 then Char.ofNat ('a'.toNat + n) else Char.ofNat ('0'.toNat + n - 26)

def variableLength (bias : Nat) : Nat → Nat → Nat → List Char
  | 0, _, _ => []
  | fuel + 1, k, q =>
    let t := threshold k bias
    if q < t then [labelDigit q]
    else labelDigit (t + (q - t) % (36 - t)) :: variableLength bias fuel (k + 36) ((q - t) / (36 - t))

/-- The state of an encoder of labels. -/
structure Encoder where
  delta : Nat
  bias : Nat
  handled : Nat
  output : List Char

/-- Handles all occurrences of the code point `n` in the label, in order. -/
def encodePoint (basic n : Nat) (label : List Nat) (e : Encoder) : Encoder :=
  label.foldl
    (fun e c =>
      if c < n then { e with delta := e.delta + 1 }
      else if c = n then
        { delta := 0
          bias := adapt e.delta (e.handled + 1) (e.handled == basic)
          handled := e.handled + 1
          output := e.output ++ variableLength e.bias 40 36 e.delta }
      else e)
    e

/-- Handles the code points of a label beyond ASCII, in ascending order. -/
def encodePoints (basic : Nat) (label : List Nat) : List Nat → Nat → Encoder → Encoder
  | [], _, e => e
  | m :: rest, n, e =>
    let e := { e with delta := e.delta + (m - n) * (e.handled + 1) }
    let e := encodePoint basic m label e
    encodePoints basic label rest (m + 1) { e with delta := e.delta + 1 }

def insertSorted (n : Nat) : List Nat → List Nat
  | [] => [n]
  | m :: rest => if n < m then n :: m :: rest else if n = m then m :: rest else m :: insertSorted n rest

/-- The ASCII form of a label. -/
def encodeLabel (label : List Char) : List Char :=
  if label.all fun c => c.toNat < 0x80 then label
  else
    let basic := label.filter fun c => c.toNat < 0x80
    let points := label.map Char.toNat
    let beyond := (points.filter (0x80 ≤ ·)).foldl (fun ps p => insertSorted p ps) []
    let start : Encoder :=
      ⟨0, 72, basic.length, if basic.isEmpty then [] else basic ++ ['-']⟩
    ['x', 'n', '-', '-'] ++ (encodePoints basic.length points beyond 0x80 start).output

/-- Folds case, maps full-width forms to ASCII and other full stops to dots, and drops invisible
characters. -/
def mapChar (c : Char) : List Char :=
  let n := c.toNat
  if n = 0xAD ∨ n = 0x200B ∨ n = 0x2060 ∨ n = 0xFEFF then []
  else if n = 0x3002 ∨ n = 0xFF61 then ['.']
  else if n = 0xDF ∨ n = 0x3C2 then [c]
  else
    let n := if 0xFF01 ≤ n ∧ n ≤ 0xFF5E then n - 0xFEE0 else n
    [Char.ofNat (Unicode.Folding.fold n)]

def isForbidden (c : Char) : Bool :=
  c.toNat ≤ 0x20 || c.toNat == 0x7F ||
    ['#', '%', '/', ':', '<', '>', '?', '@', '[', '\\', ']', '^', '|'].contains c

/-- Whether a label has the prefix of encoded labels but is not a valid one. -/
def isFakeLabel (label : List Char) : Bool :=
  label.take 4 == ['x', 'n', '-', '-'] &&
    ((label.drop 4).isEmpty || (label.drop 4).getLast? == some '-' ||
      !(label.drop 4).all fun c => c.isAlphanum || c == '-')

/-- The ASCII form of a domain name. -/
def domain? (bytes : Utf8.Bytes) : Option (List Char) := do
  let name ← Utf8.decode? bytes
  let mapped := name.toList.flatMap mapChar
  let labels := (splitOn '.' mapped).map encodeLabel
  let ascii := List.intercalate ['.'] labels
  if ascii.any isForbidden ∨ labels.any isFakeLabel then none else some ascii

def bracketed? (s : List Char) : Except ParseError String :=
  if s.getLast? = some ']' then
    match ipv6? s.dropLast with
    | some groups => .ok (writeIpv6 groups)
    | none => .error .badIpv6
  else .error .badIpv6

/-- The host of a scheme with domain names. -/
def parse (s : List Char) : Except ParseError String :=
  match s with
  | '[' :: rest => bracketed? rest
  | s =>
    match domain? (Percent.decodeBytes (Utf8.encodeChars s)) with
    | none => .error .badDomainName
    | some [] => .error .emptyHost
    | some domain =>
      if endsInNumber domain then
        match ipv4? domain with
        | some address => .ok (writeIpv4 address)
        | none => .error .badIpv4
      else .ok (String.ofList domain)

/-- The host of any other scheme, which is kept as written and percent-encoded outside ASCII. -/
def parseVerbatim (s : List Char) : Except ParseError String :=
  match s with
  | '[' :: rest => bracketed? rest
  | s =>
    let forbidden := ['\x00', '\t', '\n', '\r', ' ', '#', '/', ':', '<', '>', '?', '@', '[', '\\',
      ']', '^', '|']
    if s.any forbidden.contains then .error .badDomainCharacter
    else .ok (String.ofList (Percent.encode (fun _ => false) s))

end Host

end SchemaCheck.Url
