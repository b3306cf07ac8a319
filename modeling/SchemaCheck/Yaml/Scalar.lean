import SchemaCheck.Yaml.Value

/-!
The types of scalars. A plain scalar is null, a boolean, an integer, a float or otherwise a string;
the tags of the core schema require one of these types.
-/

namespace SchemaCheck.Yaml.Scalar

def isNull (s : String) : Bool :=
  ["null", "Null", "NULL", "~"].contains s

def bool? (s : String) : Option Bool :=
  if ["true", "True", "TRUE"].contains s then some true
  else if ["false", "False", "FALSE"].contains s then some false
  else none

def isSign (c : Char) : Bool :=
  c == '+' || c == '-'

def digit? (base : Nat) (c : Char) : Option Nat :=
  let n :=
    if '0' ≤ c ∧ c ≤ '9' then c.toNat - '0'.toNat
    else if 'a' ≤ c ∧ c ≤ 'f' then c.toNat - 'a'.toNat + 10
    else if 'A' ≤ c ∧ c ≤ 'F' then c.toNat - 'A'.toNat + 10
    else base
  if n < base then some n else none

def digits? (base value : Nat) : List Char → Option Nat
  | [] => some value
  | c :: rest => do digits? base (value * base + (← digit? base c)) rest

/-- The number with the given digits, of which there must be one. -/
def natural? (base : Nat) (s : List Char) : Option Nat :=
  if s.isEmpty then none else digits? base 0 s

/-- A text with leading zeros in front of other digits is a string. -/
def hasIdleZero (s : List Char) : Bool :=
  let s := match s with
    | c :: rest => if isSign c then rest else s
    | [] => s
  match s with
  | '0' :: rest => !rest.isEmpty && rest.all Char.isDigit
  | _ => false

/-- The absolute value of an integer: decimal digits, or digits in the base of a prefix. -/
def magnitude? (s : List Char) : Option Nat :=
  match s with
  | '0' :: 'x' :: rest => natural? 16 rest
  | '0' :: 'o' :: rest => natural? 8 rest
  | '0' :: 'b' :: rest => natural? 2 rest
  | s => natural? 10 s

def literal? (s : List Char) : Option Int :=
  if hasIdleZero s then none
  else
    match s with
    | '-' :: rest => (magnitude? rest).map fun n => -(n : Int)
    | '+' :: rest => (magnitude? rest).map Int.ofNat
    | s => (magnitude? s).map Int.ofNat

/-- The results of reading a scalar as an integer. -/
inductive Reading where
  | integer (n : Integer)
  /-- An integer of more than 64 bits and at most 128. -/
  | tooWide
  | notInteger

def integer (s : List Char) : Reading :=
  match literal? s with
  | none => .notInteger
  | some n =>
    match Integer.ofInt? n with
    | some n => .integer n
    | none => if -0x80000000000000000000000000000000 ≤ n ∧ n < 0x100000000000000000000000000000000 then .tooWide else .notInteger

/-- Digits with an optional point and an optional exponent, as a coefficient and a power of ten. -/
def decimal? (s : List Char) : Option (Nat × Int) := do
  let whole := s.takeWhile Char.isDigit
  let s := s.dropWhile Char.isDigit
  let (fraction, s) := match s with
    | '.' :: rest => (rest.takeWhile Char.isDigit, rest.dropWhile Char.isDigit)
    | s => ([], s)
  let coefficient ← natural? 10 (whole ++ fraction)
  match s with
  | [] => some (coefficient, -(fraction.length : Int))
  | e :: rest =>
    if e = 'e' ∨ e = 'E' then
      let exponent ← match rest with
        | '+' :: rest => (natural? 10 rest).map Int.ofNat
        | '-' :: rest => (natural? 10 rest).map fun n => -(n : Int)
        | rest => (natural? 10 rest).map Int.ofNat
      some (coefficient, exponent - fraction.length)
    else none

/-- The double nearest to a decimal, if it is finite. -/
def double? (negative : Bool) (coefficient : Nat) (exponent : Int) : Option Double :=
  let leading := exponent + (Decimal.digits coefficient).length
  if coefficient = 0 ∨ leading < -400 then some (Double.zero negative)
  else if 400 < leading then none
  else Double.ofDecimal? negative coefficient exponent

def float? (s : String) : Option Number :=
  if [".inf", ".Inf", ".INF", "+.inf", "+.Inf", "+.INF"].contains s then some (.infinity false)
  else if ["-.inf", "-.Inf", "-.INF"].contains s then some (.infinity true)
  else if [".nan", ".NaN", ".NAN"].contains s then some .nan
  else
    let (negative, digits) := match s.toList with
      | '-' :: rest => (true, rest)
      | '+' :: rest => (false, rest)
      | rest => (false, rest)
    do
      let (coefficient, exponent) ← decimal? digits
      (double? negative coefficient exponent).map Number.double

/-- The value of a plain scalar, or none for an integer that is too wide. -/
def plain? (s : String) : Option Value :=
  if s.isEmpty || isNull s then some .null
  else
    match bool? s with
    | some b => some (.bool b)
    | none =>
      match integer s.toList with
      | .integer n => some (.number (.integer n))
      | .tooWide => none
      | .notInteger =>
        if hasIdleZero s.toList then some (.string s)
        else
          match float? s with
          | some x => some (.number x)
          | none => some (.string s)

/-- The types of the core schema. -/
inductive Core where
  | null | bool | int | float

namespace Core

def name : Core → String
  | null => "null"
  | bool => "bool"
  | int => "int"
  | float => "float"

def tag (c : Core) : String :=
  "tag:yaml.org,2002:" ++ c.name

def ofTag? (text : String) : Option Core :=
  [null, bool, int, float].find? (·.tag = text)

/-- The value of a text that is required to have the type. -/
def read? (s : String) : Core → Option Value
  | null => if isNull s then some .null else none
  | bool => (bool? s).map .bool
  | int =>
    match integer s.toList with
    | .integer n => some (.number (.integer n))
    | _ => none
  | float => (float? s).map .number

end Core

end SchemaCheck.Yaml.Scalar
