import SchemaCheck.Json.Number
import SchemaCheck.Text.Quoted

/-!
Values of documents. In addition to JSON values there are numbers that are not finite, mappings with
arbitrary values as keys, and tagged values.
-/

namespace SchemaCheck.Yaml

inductive Number where
  | integer (n : Integer)
  | double (x : Double)
  | infinity (negative : Bool)
  | nan
  deriving DecidableEq

namespace Number

/-- Numbers below `1e-5` and from `1e16` on are written with an exponent. -/
def layout : Decimal.Layout := ⟨-5, 15, ""⟩

def write : Number → String
  | integer n => toString n.val
  | double x => x.write layout
  | infinity negative => if negative then "-.inf" else ".inf"
  | nan => ".nan"

/-- Equality of keys. Numbers of different kinds are different, the two zeros of doubles are equal,
and `nan` equals itself. -/
def same : Number → Number → Bool
  | integer m, integer n => m.val == n.val
  | double x, double y => x.compare y == .eq
  | infinity a, infinity b => a == b
  | nan, nan => true
  | _, _ => false

end Number

inductive Value where
  | null
  | bool (b : Bool)
  | number (n : Number)
  | string (s : String)
  | sequence (items : List Value)
  | mapping (entries : List (Value × Value))
  /-- A value with a custom tag, which is stored without its exclamation mark. -/
  | tagged (tag : String) (value : Value)
  deriving Inhabited

namespace Value

mutual

/-- Equality of keys, regardless of the order of entries. -/
def same : Value → Value → Bool
  | null, null => true
  | bool a, bool b => a == b
  | number m, number n => m.same n
  | string s, string t => s == t
  | sequence as, sequence bs => sameItems as bs
  | mapping as, mapping bs => as.length == bs.length && sameEntries as bs
  | tagged s a, tagged t b => s == t && same a b
  | _, _ => false

def sameItems : List Value → List Value → Bool
  | [], [] => true
  | a :: as, b :: bs => same a b && sameItems as bs
  | _, _ => false

/-- Whether each entry has an equal one in the other list. -/
def sameEntries : List (Value × Value) → List (Value × Value) → Bool
  | [], _ => true
  | (key, a) :: as, bs =>
    bs.any (fun entry => same key entry.1 && same a entry.2) && sameEntries as bs

end

mutual

/-- The value with its kind, for error messages. -/
def describe : Value → String
  | null => "Null"
  | bool b => "Bool(" ++ toString b ++ ")"
  | number n => "Number(" ++ n.write ++ ")"
  | string s => "String(" ++ Quoted.quote s ++ ")"
  | sequence items => "Sequence [" ++ String.intercalate ", " (describeItems items) ++ "]"
  | mapping entries =>
    "Mapping \x7b" ++ String.intercalate ", " (describeEntries entries) ++ "\x7d"
  | tagged tag value =>
    "TaggedValue \x7b tag: !" ++ tag ++ ", value: " ++ describe value ++ " \x7d"

def describeItems : List Value → List String
  | [] => []
  | item :: rest => describe item :: describeItems rest

/-- Simple keys are described without their kind. -/
def describeKey : Value → String
  | bool b => toString b
  | number n => n.write
  | string s => Quoted.quote s
  | null => describe null
  | sequence items => describe (sequence items)
  | mapping entries => describe (mapping entries)
  | tagged tag value => describe (tagged tag value)

def describeEntries : List (Value × Value) → List String
  | [] => []
  | (key, value) :: rest => (describeKey key ++ ": " ++ describe value) :: describeEntries rest

end

end Value

end SchemaCheck.Yaml
