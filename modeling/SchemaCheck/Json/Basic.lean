import SchemaCheck.Json.Number

/-!
Document values. An object lists its members in ascending order of their keys, each key once;
`Members.insert` keeps that order, and every walk and every rendering follows it.
-/

namespace SchemaCheck

inductive Json where
  | null
  | bool (b : Bool)
  | number (n : Json.Number)
  | string (s : String)
  | array (items : List Json)
  | object (members : List (String × Json))
  deriving Inhabited

namespace Json

abbrev Members := List (String × Json)

namespace Members

def find? (key : String) : Members → Option Json
  | [] => none
  | (k, v) :: rest => if k = key then some v else find? key rest

def contains (key : String) (members : Members) : Bool :=
  (find? key members).isSome

def keys (members : Members) : List String :=
  members.map (·.1)

/-- Keys are compared by code points, the order of their UTF-8 bytes. -/
def insert (key : String) (value : Json) : Members → Members
  | [] => [(key, value)]
  | (k, v) :: rest =>
    if key < k then (key, value) :: (k, v) :: rest
    else if key = k then (key, value) :: rest
    else (k, v) :: insert key value rest

def erase (key : String) (members : Members) : Members :=
  members.filter (·.1 ≠ key)

/-- The members of a list of entries; a later entry replaces an earlier one of its key. -/
def ofList (entries : List (String × Json)) : Members :=
  entries.foldl (fun members entry => insert entry.1 entry.2 members) []

end Members

def ofNat? (n : Nat) : Option Json :=
  (Integer.ofInt? n).map fun n => number (.integer n)

def bool? : Json → Option Bool
  | bool b => some b
  | _ => none

def string? : Json → Option String
  | string s => some s
  | _ => none

def array? : Json → Option (List Json)
  | array items => some items
  | _ => none

def object? : Json → Option Members
  | object members => some members
  | _ => none

/-- The member `key`, of an object that has it. -/
def get? (key : String) : Json → Option Json
  | object members => Members.find? key members
  | _ => none

/-- An object without its member `key`; any other value as it is. -/
def without (key : String) : Json → Json
  | object members => object (Members.erase key members)
  | j => j

mutual

/-- Equality up to the kind of numbers: `1` and `1.0` are equal. -/
def equal : Json → Json → Bool
  | null, null => true
  | bool a, bool b => a == b
  | number m, number n => m.compare n == .eq
  | string s, string t => s == t
  | array as, array bs => equalItems as bs
  | object as, object bs => as.length == bs.length && equalMembers as bs
  | _, _ => false

def equalItems : List Json → List Json → Bool
  | [], [] => true
  | a :: as, b :: bs => equal a b && equalItems as bs
  | _, _ => false

/-- Whether each member has an equal member under the same key. -/
def equalMembers : List (String × Json) → Members → Bool
  | [], _ => true
  | (key, a) :: as, bs =>
    (match Members.find? key bs with
      | some b => equal a b
      | none => false) && equalMembers as bs

end

/-- The type names that schemas may use. -/
inductive Primitive where
  | array | boolean | integer | null | number | object | string
  deriving DecidableEq

namespace Primitive

def name : Primitive → String
  | array => "array"
  | boolean => "boolean"
  | integer => "integer"
  | null => "null"
  | number => "number"
  | object => "object"
  | string => "string"

def all : List Primitive :=
  [array, boolean, integer, null, number, object, string]

def ofName? (text : String) : Option Primitive :=
  all.find? (·.name = text)

/-- Only an integer literal is an integer, and it is a number as well. -/
def admits : Primitive → Json → Bool
  | array, .array _ => true
  | boolean, .bool _ => true
  | integer, .number (.integer _) => true
  | null, .null => true
  | number, .number _ => true
  | object, .object _ => true
  | string, .string _ => true
  | _, _ => false

end Primitive

/-- The narrowest type of a value. -/
def primitive : Json → Primitive
  | null => .null
  | bool _ => .boolean
  | number (.integer _) => .integer
  | number (.double _) => .number
  | string _ => .string
  | array _ => .array
  | object _ => .object

end Json

end SchemaCheck
