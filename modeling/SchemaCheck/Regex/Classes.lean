import SchemaCheck.Regex.Basic
import SchemaCheck.Unicode.Category
import SchemaCheck.Unicode.Property
import SchemaCheck.Unicode.Script

/-!
The named character classes of patterns: digits, white space and word characters, bracketed ASCII
classes, and classes by Unicode property.
-/

namespace SchemaCheck.Regex

namespace Classes

/-- White space of Unicode. -/
def blank : Unicode.Ranges :=
  [(0x09, 0x0D), (0x20, 0x20), (0x85, 0x85), (0xA0, 0xA0), (0x1680, 0x1680), (0x2000, 0x200A),
    (0x2028, 0x2029), (0x202F, 0x202F), (0x205F, 0x205F), (0x3000, 0x3000)]

def isBlank (c : Char) : Bool :=
  blank.contains c.toNat

def category (name : String) : Unicode.Ranges :=
  (Unicode.Category.find? name).getD []

def property (name : String) : Unicode.Ranges :=
  (Unicode.Property.find? name).getD []

def digit (unicode : Bool) : CharSet :=
  .ranges (if unicode then category "nd" else [(0x30, 0x39)])

def space (unicode : Bool) : CharSet :=
  .ranges (if unicode then blank else [(0x09, 0x0D), (0x20, 0x20)])

def asciiWord : Unicode.Ranges :=
  [(0x30, 0x39), (0x41, 0x5A), (0x5F, 0x5F), (0x61, 0x7A)]

/-- Letters, marks, decimal digits, connecting punctuation and the joining characters. -/
def word (unicode : Bool) : CharSet :=
  .ranges (if unicode then
    property "alphabetic" ++ category "m" ++ category "nd" ++ category "pc" ++
      property "joincontrol"
  else asciiWord)

/-- The sets with names such as `[:alpha:]`. -/
def ascii? : String → Option Unicode.Ranges
  | "alnum" => some [(0x30, 0x39), (0x41, 0x5A), (0x61, 0x7A)]
  | "alpha" => some [(0x41, 0x5A), (0x61, 0x7A)]
  | "ascii" => some [(0x00, 0x7F)]
  | "blank" => some [(0x09, 0x09), (0x20, 0x20)]
  | "cntrl" => some [(0x00, 0x1F), (0x7F, 0x7F)]
  | "digit" => some [(0x30, 0x39)]
  | "graph" => some [(0x21, 0x7E)]
  | "lower" => some [(0x61, 0x7A)]
  | "print" => some [(0x20, 0x7E)]
  | "punct" => some [(0x21, 0x2F), (0x3A, 0x40), (0x5B, 0x60), (0x7B, 0x7E)]
  | "space" => some [(0x09, 0x0D), (0x20, 0x20)]
  | "upper" => some [(0x41, 0x5A)]
  | "word" => some asciiWord
  | "xdigit" => some [(0x30, 0x39), (0x41, 0x46), (0x61, 0x66)]
  | _ => none

/-- Property names are compared in lower case, without blanks, hyphens and underscores, without a
leading "is" and without characters beyond ASCII. -/
def normalize (name : List Char) : String :=
  let isPrefixed := (name.take 2).map Char.toLower = ['i', 's']
  let body := if isPrefixed then name.drop 2 else name
  let kept := body.filter fun c => !([' ', '_', '-'].contains c) && c.toNat < 0x80
  let text := String.ofList (kept.map Char.toLower)
  if isPrefixed ∧ text = "c" then "isc" else text

/-- The set of a general category, by a normalized name. -/
def generalCategory? (name : String) : Option CharSet :=
  let assigned := CharSet.ranges Unicode.Category.assigned
  match name with
  | "any" => some .any
  | "assigned" => some assigned
  | "ascii" => some (.ranges [(0x00, 0x7F)])
  | "cn" => some (.complement assigned)
  | "unassigned" => some (.complement assigned)
  | "c" => some (.complement (.ranges (["l", "m", "n", "p", "s", "z"].flatMap category)))
  | "other" => some (.complement (.ranges (["l", "m", "n", "p", "s", "z"].flatMap category)))
  | name => (Unicode.Category.find? name).map .ranges

/-- The set of a single name: a property, a general category or a script. -/
def named? (name : List Char) : Option CharSet :=
  let name := normalize name
  let property? :=
    if ["cf", "sc", "lc"].contains name then none else Unicode.Property.find? name
  match property? with
  | some rs => some (.ranges rs)
  | none =>
    match generalCategory? name with
    | some s => some s
    | none => (Unicode.Script.find? name).map .ranges

/-- The set of a property with one of its values. -/
def valued? (property value : List Char) : Option CharSet :=
  let value := normalize value
  match normalize property with
  | "gc" => generalCategory? value
  | "generalcategory" => generalCategory? value
  | "sc" => (Unicode.Script.find? value).map .ranges
  | "script" => (Unicode.Script.find? value).map .ranges
  | "scx" => (Unicode.Script.find? value).map .ranges
  | "scriptextensions" => (Unicode.Script.find? value).map .ranges
  | _ => none

/-- The parts of a text around the first occurrence of a separator. -/
def splitAt? (separator : List Char) : List Char → Option (List Char × List Char)
  | [] => none
  | c :: rest =>
    if separator.isPrefixOf (c :: rest) then some ([], (c :: rest).drop separator.length)
    else (splitAt? separator rest).map fun parts => (c :: parts.1, parts.2)

/-- The set of the text between braces: a name, or a property and its value joined by `=` or `:`, or
by `!=` for the complement. -/
def braced? (text : List Char) : Option CharSet :=
  match splitAt? ['!', '='] text with
  | some (property, value) => (valued? property value).map .complement
  | none =>
    match splitAt? [':'] text with
    | some (property, value) => valued? property value
    | none =>
      match splitAt? ['='] text with
      | some (property, value) => valued? property value
      | none => named? text

end Classes

end SchemaCheck.Regex
