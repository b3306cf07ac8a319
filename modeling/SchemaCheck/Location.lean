import SchemaCheck.Json.Basic

/-!
Places inside documents: the steps from the root of a value to a part of it.
-/

namespace SchemaCheck

/-- A step into an object or into an array. -/
inductive Step where
  | key (name : String)
  | index (i : Nat)
  deriving DecidableEq, Inhabited

namespace Step

def write : Step → String
  | key name => name
  | index i => toString i

/-- Keys come before indexes. Keys are compared by code points, indexes by value. -/
def le : Step → Step → Bool
  | key a, key b => a ≤ b
  | key _, index _ => true
  | index _, key _ => false
  | index i, index j => i ≤ j

/-- What the step leads to. -/
def into? : Step → Json → Option Json
  | key name, .object members => Json.Members.find? name members
  | index i, .array items => items[i]?
  | _, _ => none

end Step

/-- Steps from the root on. -/
abbrev Location := List Step

namespace Location

/-- Steps joined by dots. -/
def dotted (l : Location) : String :=
  String.intercalate "." (l.map Step.write)

/-- Steps in square brackets, keys in quotes as well. -/
def bracketed (l : Location) : String :=
  String.join (l.map fun
    | .key name => "['" ++ name ++ "']"
    | .index i => "[" ++ toString i ++ "]")

def sort (l : Location) : Location :=
  l.mergeSort Step.le

/-- The part of a value at a place. -/
def follow? : Location → Json → Option Json
  | [], j => some j
  | step :: rest, j => (step.into? j).bind (follow? rest)

@[simp] theorem follow?_nil (j : Json) : follow? [] j = some j := rfl

@[simp] theorem follow?_cons (step : Step) (rest : Location) (j : Json) :
    follow? (step :: rest) j = (step.into? j).bind (follow? rest) := rfl

/-- A location in a part, prefixed by the location of the part. -/
theorem follow?_append (l m : Location) (j : Json) :
    follow? (l ++ m) j = (follow? l j).bind (follow? m) := by
  induction l generalizing j with
  | nil => rfl
  | cons step rest ih =>
      simp only [List.cons_append, follow?_cons]
      cases step.into? j with
      | none => rfl
      | some part => exact ih part

end Location

end SchemaCheck
