import SchemaCheck.Walk

/-!
Keywords that compare a count with a limit: elements of arrays, characters of strings, members of
objects.
-/

namespace SchemaCheck.Keyword

/-- The largest limit that a document can ask for. -/
def greatestLimit : Nat := 0xffffffffffffffff

/-- The limit that a declared value denotes: a non-negative whole number in any notation, capped at
the greatest limit. -/
def limit? : Json → Option Nat
  | .number (.integer n) => if 0 ≤ n.val then some n.val.toNat else none
  | .number (.double x) =>
    if (x.isZero || !x.negative) && x.isInteger then some (min x.floorAbs greatestLimit) else none
  | _ => none

/-- The count that a limit applies to, if the value is of the right kind. -/
abbrev Count := Json → Option Nat

def elementCount : Count
  | .array items => some items.length
  | _ => none

def charCount : Count
  | .string s => some s.length
  | _ => none

def memberCount : Count
  | .object members => some members.length
  | _ => none

/-- Reports a violation if `fails` holds of the count and the limit. -/
def limited (count : Count) (fails : Nat → Nat → Bool) (complaint : String) : Keyword :=
  fun _ declared subject _ =>
    match count subject.value, limit? declared with
    | some n, some limit =>
      if fails n limit then return [.ofMessage (subject.value.render ++ complaint)] else return []
    | _, _ => return []

def isBelow (n limit : Nat) : Bool := n < limit

def isAbove (n limit : Nat) : Bool := limit < n

def minItems : Keyword := limited elementCount isBelow " is too short"

def maxItems : Keyword := limited elementCount isAbove " is too long"

def minLength : Keyword := limited charCount isBelow " is too short"

def maxLength : Keyword := limited charCount isAbove " is too long"

def minProperties : Keyword := limited memberCount isBelow " does not have enough properties"

def maxProperties : Keyword := limited memberCount isAbove " has too many properties"

end SchemaCheck.Keyword
