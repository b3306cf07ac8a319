import SchemaCheck.Json.Basic

/-!
Text of document values: on one line without blanks, or with one item a line and two blanks of
indentation a level.
-/

namespace SchemaCheck.Json

def hexDigit (n : Nat) : Char :=
  Nat.digitChar n

/-- Quotes, backslashes and control characters below U+0020 are escaped, and nothing else. -/
def escapeChar (c : Char) : String :=
  if c = '"' then "\\\""
  else if c = '\\' then "\\\\"
  else if c = '\x08' then "\\b"
  else if c = '\x0c' then "\\f"
  else if c = '\n' then "\\n"
  else if c = '\r' then "\\r"
  else if c = '\t' then "\\t"
  else if c.toNat < 0x20 then
    "\\u00" ++ String.ofList [hexDigit (c.toNat / 16), hexDigit (c.toNat % 16)]
  else String.singleton c

def renderString (s : String) : String :=
  "\"" ++ String.join (s.toList.map escapeChar) ++ "\""

mutual

def render : Json → String
  | null => "null"
  | bool b => if b then "true" else "false"
  | number n => n.render
  | string s => renderString s
  | array items => "[" ++ String.intercalate "," (renderItems items) ++ "]"
  | object members => "\x7b" ++ String.intercalate "," (renderMembers members) ++ "\x7d"

def renderItems : List Json → List String
  | [] => []
  | j :: rest => render j :: renderItems rest

def renderMembers : List (String × Json) → List String
  | [] => []
  | (key, j) :: rest => (renderString key ++ ":" ++ render j) :: renderMembers rest

end

/-- The lines of a container between its brackets. -/
def block (opening closing indent : String) (lines : List String) : String :=
  match lines with
  | [] => opening ++ closing
  | _ =>
    let inner := indent ++ "  "
    opening ++ "\n" ++ inner ++ String.intercalate (",\n" ++ inner) lines ++ "\n" ++ indent ++
      closing

mutual

def prettyAt (indent : String) : Json → String
  | array items => block "[" "]" indent (prettyItems (indent ++ "  ") items)
  | object members => block "\x7b" "\x7d" indent (prettyMembers (indent ++ "  ") members)
  | null => render null
  | bool b => render (bool b)
  | number n => render (number n)
  | string s => render (string s)

def prettyItems (indent : String) : List Json → List String
  | [] => []
  | j :: rest => prettyAt indent j :: prettyItems indent rest

def prettyMembers (indent : String) : List (String × Json) → List String
  | [] => []
  | (key, j) :: rest =>
    (renderString key ++ ": " ++ prettyAt indent j) :: prettyMembers indent rest

end

def pretty (j : Json) : String :=
  prettyAt "" j

end SchemaCheck.Json
