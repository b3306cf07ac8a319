import SchemaCheck.Url.Basic
import SchemaCheck.Url.Host

/-!
The parser of locators, absolute or relative to a base. The grammar is the lenient one of browsers:
blanks around the text and line ends inside it are dropped, and backslashes are separators in the
well-known schemes.
-/

namespace SchemaCheck.Url

namespace Parser

inductive SchemeKind where
  | file | special | other
  deriving DecidableEq

def schemeKind (scheme : String) : SchemeKind :=
  if scheme = "file" then .file
  else if ["http", "https", "ws", "wss", "ftp"].contains scheme then .special
  else .other

def SchemeKind.knowsHosts : SchemeKind → Bool
  | .other => false
  | _ => true

def usualPort? (scheme : String) : Option Nat :=
  if scheme = "http" ∨ scheme = "ws" then some 80
  else if scheme = "https" ∨ scheme = "wss" then some 443
  else if scheme = "ftp" then some 21
  else none

/-- Drops blanks and control characters around the text, and tabs and line ends inside. -/
def clean (s : List Char) : List Char :=
  let isOuter (c : Char) : Bool := c.toNat ≤ 0x20
  let trimmed := ((s.dropWhile isOuter).reverse.dropWhile isOuter).reverse
  trimmed.filter fun c => c != '\t' && c != '\n' && c != '\r'

def isSchemeChar (c : Char) : Bool :=
  c.isAlphanum || c == '+' || c == '-' || c == '.'

/-- The scheme in lower case and the rest behind its colon. -/
def scheme? (s : List Char) : Option (String × List Char) :=
  match s with
  | c :: _ =>
    if c.isAlpha then
      match s.dropWhile isSchemeChar with
      | ':' :: rest => some (String.ofList ((s.takeWhile isSchemeChar).map Char.toLower), rest)
      | _ => none
    else none
  | [] => none

def isSlash (c : Char) : Bool :=
  c == '/' || c == '\\'

def inFragment (c : Char) : Bool :=
  [' ', '"', '<', '>', Char.ofNat 0x60].contains c

def inPath (c : Char) : Bool :=
  inFragment c || ['#', '?', '\x7b', '\x7d'].contains c

def inUserinfo (c : Char) : Bool :=
  inPath c || ['/', ':', ';', '=', '@', '[', '\\', ']', '^', '|'].contains c

def inQuery (kind : SchemeKind) (c : Char) : Bool :=
  [' ', '"', '#', '<', '>'].contains c || kind.knowsHosts && c == '\''

def encoded (reserved : Char → Bool) (s : List Char) : String :=
  String.ofList (Percent.encode reserved s)

/-- The query and the fragment, from the first `?` or `#` on. -/
def tail (kind : SchemeKind) (s : List Char) : Option String × Option String :=
  match s with
  | '?' :: rest =>
    let query := encoded (inQuery kind) (rest.takeWhile (· != '#'))
    match rest.dropWhile (· != '#') with
    | '#' :: fragment => (some query, some (encoded inFragment fragment))
    | _ => (some query, none)
  | '#' :: fragment => (none, some (encoded inFragment fragment))
  | _ => (none, none)

def isPathEnd (c : Char) : Bool :=
  c == '?' || c == '#'

/-- The pieces of a path between its separators. -/
def pieces (kind : SchemeKind) : List Char → List (List Char)
  | [] => [[]]
  | c :: rest =>
    if c = '/' ∨ (c = '\\' ∧ kind.knowsHosts) then [] :: pieces kind rest
    else
      match pieces kind rest with
      | [] => [[c]]
      | piece :: more => (c :: piece) :: more

def lower (s : List Char) : List Char :=
  s.map Char.toLower

def isDot (piece : List Char) : Bool :=
  [['.'], ['%', '2', 'e']].contains (lower piece)

def isDoubleDot (piece : List Char) : Bool :=
  [['.', '.'], ['%', '2', 'e', '%', '2', 'e'], ['%', '2', 'e', '.'],
    ['.', '%', '2', 'e']].contains (lower piece)

def isDriveLetter (piece : List Char) : Bool :=
  match piece with
  | [c, mark] => c.isAlpha && (mark == ':' || mark == '|')
  | _ => false

def isDriveSegment (segment : String) : Bool :=
  match segment.toList with
  | [c, ':'] => c.isAlpha
  | _ => false

/-- Removes the last segment, except for a drive letter of a file. -/
def parent (kind : SchemeKind) (segments : List String) : List String :=
  match segments.getLast? with
  | some last =>
    if kind = .file ∧ isDriveSegment last then segments else segments.dropLast
  | none => []

/-- Adds a piece to the segments; `last` is set if no separator follows it. -/
def step (kind : SchemeKind) (segments : List String) (piece : List Char) (last : Bool) :
    List String :=
  let close (segments : List String) := if last then segments ++ [""] else segments
  if isDoubleDot piece then close (parent kind segments)
  else if isDot piece then close segments
  else if kind = .file ∧ segments.isEmpty ∧ isDriveLetter piece then
    [String.ofList (piece.take 1 ++ [':'])]
  else segments ++ [encoded inPath piece]

def steps (kind : SchemeKind) (segments : List String) : List (List Char) → List String
  | [] => segments
  | [piece] => step kind segments piece true
  | piece :: rest => steps kind (step kind segments piece false) rest

/-- Removes empty segments at the start of the path of a file. -/
def settle (kind : SchemeKind) (segments : List String) : List String :=
  if kind = .file then
    match segments.dropWhile (·.isEmpty) with
    | [] => [""]
    | segments => segments
  else segments

/-- The segments of a path after those of the base, and the rest behind the path. -/
def path (kind : SchemeKind) (base : List String) (s : List Char) : List String × List Char :=
  let text := s.takeWhile fun c => !isPathEnd c
  (settle kind (steps kind base (pieces kind text)), s.dropWhile fun c => !isPathEnd c)

def finish (kind : SchemeKind) (scheme : String) (authority : Option Authority) (path : Path)
    (s : List Char) : Url :=
  let (query, fragment) := tail kind s
  { scheme, authority, path, query, fragment }

/-- The path after an authority, with or without a leading slash. -/
def pathAfterAuthority (kind : SchemeKind) (s : List Char) : List String × List Char :=
  match s with
  | [] => (if kind.knowsHosts then [""] else [], [])
  | c :: rest =>
    if c = '/' ∨ (c = '\\' ∧ kind.knowsHosts) then path kind [] rest
    else if isPathEnd c then (if kind.knowsHosts then [""] else [], c :: rest)
    else path kind [] (c :: rest)

/-- The length of the user data: up to the last `@` of the authority. -/
def userinfoLength (kind : SchemeKind) (s : List Char) : Option Nat :=
  let isEnd (c : Char) : Bool := c == '/' || isPathEnd c || c == '\\' && kind.knowsHosts
  let text := s.takeWhile fun c => !isEnd c
  if text.contains '@' then
    some (text.length - 1 - (text.reverse.takeWhile (· != '@')).length)
  else none

/-- User data in front of its `@`; the colon of an empty password is dropped. -/
def writeUserinfo (s : List Char) : String :=
  let name := s.takeWhile (· != ':')
  let text :=
    match s.dropWhile (· != ':') with
    | ':' :: password =>
      if password.isEmpty then encoded inUserinfo name
      else encoded inUserinfo name ++ ":" ++ encoded inUserinfo password
    | _ => encoded inUserinfo name
  if text.isEmpty then "" else text ++ "@"

/-- The user data and the rest behind its `@`. -/
def userinfo (kind : SchemeKind) (s : List Char) : Except ParseError (String × List Char) :=
  match userinfoLength kind s with
  | none => .ok ("", s)
  | some 0 =>
    match s.drop 1 with
    | [] => .ok ("", [])
    | c :: rest =>
      if c = '/' ∨ isPathEnd c ∨ (c = '\\' ∧ kind.knowsHosts) then .error .emptyHost
      else .ok ("", c :: rest)
  | some n => .ok (writeUserinfo (s.take n), s.drop (n + 1))

/-- The text of a host, which may contain colons inside square brackets. -/
def hostText (kind : SchemeKind) (bracketed : Bool) : List Char → List Char × List Char
  | [] => ([], [])
  | c :: rest =>
    if (c = ':' ∧ !bracketed) ∨ c = '/' ∨ isPathEnd c ∨ (c = '\\' ∧ kind.knowsHosts) then
      ([], c :: rest)
    else
      let bracketed := if c = '[' then true else if c = ']' then false else bracketed
      let (text, after) := hostText kind bracketed rest
      (c :: text, after)

def port (scheme : String) (s : List Char) : Except ParseError (Option Nat × List Char) :=
  let digits := s.takeWhile Char.isDigit
  let rest := s.dropWhile Char.isDigit
  let n := digits.foldl (fun n c => n * 10 + (c.toNat - '0'.toNat)) 0
  if 65535 < n then .error .badPort
  else
    let ends :=
      match rest with
      | [] => true
      | c :: _ => isSlash c || isPathEnd c
    if !ends then .error .badPort
    else if digits.isEmpty ∨ usualPort? scheme = some n then .ok (none, rest)
    else .ok (some n, rest)

def host (kind : SchemeKind) (text : List Char) : Except ParseError String :=
  if kind.knowsHosts then Host.parse text else Host.parseVerbatim text

/-- The port behind a nonempty host, and the rest behind it. -/
def portAfter (scheme host : String) (s : List Char) :
    Except ParseError (Option Nat × List Char) :=
  match s with
  | ':' :: rest => if host.isEmpty then .error .emptyHost else port scheme rest
  | rest => .ok (none, rest)

/-- The host and the port. -/
def hostAndPort (kind : SchemeKind) (scheme : String) (s : List Char) :
    Except ParseError (String × Option Nat × List Char) := do
  let (text, rest) := hostText kind false s
  if kind = .special ∧ text.isEmpty then .error .emptyHost
  let host ← host kind text
  let (port, rest) ← portAfter scheme host rest
  .ok (host, port, rest)

/-- A locator from the text behind the two slashes of its authority. -/
def afterSlashes (kind : SchemeKind) (scheme : String) (s : List Char) :
    Except ParseError Url := do
  let (userinfo, rest) ← userinfo kind s
  let (host, port, rest) ← hostAndPort kind scheme rest
  if host.isEmpty ∧ !userinfo.isEmpty then .error .emptyHost
  let (segments, rest) := pathAfterAuthority kind rest
  .ok (finish kind scheme (some { userinfo, host, port }) (.rooted segments) rest)

def localAuthority : Authority := ⟨"", "", none⟩

/-- The host of a file and the rest behind it; a drive letter in its place belongs to the path. -/
def fileHost (s : List Char) : Except ParseError (String × Bool × List Char) := do
  let isEnd (c : Char) : Bool := isSlash c || isPathEnd c
  let text := s.takeWhile fun c => !isEnd c
  if isDriveLetter text then .ok ("", false, s)
  else
    let rest := s.dropWhile fun c => !isEnd c
    if text.isEmpty then .ok ("", false, rest)
    else
      let host ← Host.parse text
      if host = "localhost" then .ok ("", false, rest) else .ok (host, true, rest)

/-- Whether the text begins with a drive letter that is followed by a slash, by the end of the path
or by nothing. -/
def startsWithDriveLetter (s : List Char) : Bool :=
  isDriveLetter (s.take 2) &&
    match s.drop 2 with
    | [] => true
    | c :: _ => isSlash c || isPathEnd c

def segmentsOf : Path → List String
  | .rooted segments => segments
  | .rootless _ => []

def dropFirstSlash (s : List Char) : List Char :=
  match s with
  | c :: rest => if isSlash c then rest else s
  | [] => []

/-- The locator of a file from the text behind two slashes. -/
def fileAfterSlashes (s : List Char) : Except ParseError Url := do
  let (host, hasHost, rest) ← fileHost s
  let (segments, after) := path .file [] (dropFirstSlash rest)
  let keepsHost := hasHost ∧ !(segments.head?.map isDriveSegment).getD false
  let authority := { localAuthority with host := if keepsHost then host else "" }
  return finish .file "file" (some authority) (.rooted segments) after

/-- The locator of a file from the text behind one slash. The host and the drive are those of the
base, unless the text has a drive letter. -/
def fileAfterSlash (base : Option Url) (s : List Char) : Url :=
  let host := if startsWithDriveLetter s then "" else
    ((base.bind (·.authority)).map (·.host)).getD ""
  let drive := if startsWithDriveLetter s then [] else
    (((base.map fun u => segmentsOf u.path).getD []).take 1).filter isDriveSegment
  let (segments, after) := path .file drive s
  finish .file "file" (some { localAuthority with host }) (.rooted segments) after

/-- The locator of a file relative to another one. -/
def relativeFile (base : Url) (s : List Char) : Url :=
  match s with
  | [] => { base with fragment := none }
  | '?' :: _ =>
    let (query, fragment) := tail .file s
    { base with query, fragment }
  | '#' :: _ => { base with fragment := (tail .file s).2 }
  | s =>
    if startsWithDriveLetter s then
      let (segments, after) := path .file [] s
      finish .file "file" (some localAuthority) (.rooted segments) after
    else
      let (segments, after) := path .file (parent .file (segmentsOf base.path)) s
      finish .file "file" base.authority (.rooted segments) after

def fileWithoutSlash (base : Option Url) (s : List Char) : Url :=
  match base with
  | some u => relativeFile u s
  | none =>
    let (segments, after) := path .file [] s
    finish .file "file" (some localAuthority) (.rooted segments) after

/-- The locator of a file from the text behind its scheme, relative to another file if there is
one. -/
def file (base : Option Url) (s : List Char) : Except ParseError Url :=
  match s with
  | [] => .ok (fileWithoutSlash base [])
  | c :: rest =>
    if isSlash c then
      match rest with
      | d :: after =>
        if isSlash d then fileAfterSlashes after else .ok (fileAfterSlash base rest)
      | [] => .ok (fileAfterSlash base [])
    else .ok (fileWithoutSlash base s)

/-- A reference relative to a base that is not a file. -/
def relative (kind : SchemeKind) (base : Url) (s : List Char) : Except ParseError Url :=
  match s with
  | [] => .ok { base with fragment := none }
  | '?' :: _ =>
    let (query, fragment) := tail kind s
    .ok { base with query, fragment }
  | '#' :: _ => .ok { base with fragment := (tail kind s).2 }
  | c :: rest =>
    if isSlash c then
      match s with
      | '/' :: '/' :: after => afterSlashes kind base.scheme after
      | _ =>
        if (s.takeWhile isSlash).length ≥ 2 then
          afterSlashes kind base.scheme (s.dropWhile isSlash)
        else
          let (segments, after) := path kind [] rest
          .ok (finish kind base.scheme base.authority (.rooted segments) after)
    else
      let (segments, after) := path kind (segmentsOf base.path).dropLast s
      .ok (finish kind base.scheme base.authority (.rooted segments) after)

/-- A locator of a scheme without a special grammar. -/
def other (scheme : String) (s : List Char) : Except ParseError Url :=
  match s with
  | '/' :: '/' :: rest => afterSlashes .other scheme rest
  | '/' :: rest =>
    let (segments, after) := path .other [] rest
    .ok (finish .other scheme none (.rooted segments) after)
  | s =>
    let text := s.takeWhile fun c => !isPathEnd c
    let rest := s.dropWhile fun c => !isPathEnd c
    .ok (finish .other scheme none (.rootless (encoded (fun _ => false) text)) rest)

def withScheme (base : Option Url) (scheme : String) (s : List Char) : Except ParseError Url :=
  match schemeKind scheme with
  | .file => file (base.filter (·.scheme = "file")) s
  | .special =>
    match base with
    | some u =>
      if u.scheme = scheme ∧ (s.takeWhile isSlash).length < 2 then relative .special u s
      else afterSlashes .special scheme (s.dropWhile isSlash)
    | none => afterSlashes .special scheme (s.dropWhile isSlash)
  | .other => other scheme s

end Parser

open SchemaCheck.Url.Parser in
/-- Parses a locator, relative to `base` if there is one. -/
def parseWith (base : Option Url) (text : String) : Except ParseError Url :=
  let s := clean text.toList
  match scheme? s with
  | some (scheme, rest) => withScheme base scheme rest
  | none =>
    match base with
    | none => .error .noBase
    | some u =>
      match s with
      | '#' :: _ => .ok { u with fragment := (tail (schemeKind u.scheme) s).2 }
      | s =>
        if !u.isBase then .error .baseWithoutHierarchy
        else
          match schemeKind u.scheme with
          | .file => file (some u) s
          | kind => relative kind u s

def parse (text : String) : Except ParseError Url :=
  parseWith none text

/-- The locator of the reference `text` in a document at `base`. -/
def join (base : Url) (text : String) : Except ParseError Url :=
  parseWith (some base) text

end SchemaCheck.Url
