import SchemaCheck.Ban
import SchemaCheck.Config
import SchemaCheck.Keyword.Array
import SchemaCheck.Keyword.Combinator
import SchemaCheck.Keyword.Draft3
import SchemaCheck.Keyword.Limit
import SchemaCheck.Keyword.Numeric

/-!
Registries of keywords. Members of a schema whose names are not registered are annotations.
-/

namespace SchemaCheck

/-- Keywords by name, with the names in ascending order. -/
structure Registry where
  entries : List (String × Keyword)

namespace Registry

def empty : Registry := ⟨[]⟩

def lookup? (name : String) (r : Registry) : Option Keyword :=
  (r.entries.find? (·.1 = name)).map (·.2)

def contains (name : String) (r : Registry) : Bool :=
  (r.lookup? name).isSome

def insertEntry (name : String) (k : Keyword) :
    List (String × Keyword) → List (String × Keyword)
  | [] => [(name, k)]
  | (n, l) :: rest =>
    if name < n then (name, k) :: (n, l) :: rest
    else if name = n then (name, k) :: rest
    else (n, l) :: insertEntry name k rest

def register (name : String) (k : Keyword) (r : Registry) : Registry :=
  ⟨insertEntry name k r.entries⟩

def unregister (name : String) (r : Registry) : Registry :=
  ⟨r.entries.filter (·.1 ≠ name)⟩

def size (r : Registry) : Nat :=
  r.entries.length

def isEmpty (r : Registry) : Bool :=
  r.entries.isEmpty

def names (r : Registry) : List String :=
  r.entries.map (·.1)

def ofList (entries : List (String × Keyword)) : Registry :=
  entries.foldl (fun r entry => r.register entry.1 entry.2) empty

/-- The keywords that both drafts share. -/
def shared : List (String × Keyword) := [
  ("$ref", Keyword.reference),
  ("additionalItems", Keyword.additionalItems),
  ("additionalProperties", Keyword.additionalProperties),
  (Ban.keyword, Ban.onObject),
  ("enum", Keyword.enum),
  ("items", Keyword.items),
  ("maxItems", Keyword.maxItems),
  ("maxLength", Keyword.maxLength),
  ("maximum", Keyword.maximum),
  ("minItems", Keyword.minItems),
  ("minLength", Keyword.minLength),
  ("minimum", Keyword.minimum),
  ("pattern", Keyword.pattern),
  ("patternProperties", Keyword.patternProperties),
  ("uniqueItems", Keyword.uniqueItems)]

/-- The keywords of the fourth draft beyond the shared ones. -/
def draft4Only : List (String × Keyword) := [
  ("allOf", Keyword.allOf),
  ("anyOf", Keyword.anyOf),
  ("dependencies", Keyword.dependencies),
  ("maxProperties", Keyword.maxProperties),
  ("minProperties", Keyword.minProperties),
  ("multipleOf", Keyword.multipleOf),
  ("not", Keyword.not),
  ("oneOf", Keyword.oneOf),
  ("properties", Keyword.properties),
  ("required", Keyword.required),
  ("type", Keyword.type)]

/-- The keywords of the third draft beyond the shared ones. -/
def draft3Only : List (String × Keyword) := [
  ("dependencies", Keyword.Draft3.dependencies),
  ("disallow", Keyword.Draft3.disallow),
  ("divisibleBy", Keyword.multipleOf),
  ("extends", Keyword.Draft3.bases),
  ("properties", Keyword.Draft3.properties),
  ("type", Keyword.Draft3.type)]

def draft4 : Registry := ofList (shared ++ draft4Only)

def draft3 : Registry := ofList (shared ++ draft3Only)

def ofDraft : Draft → Registry
  | .draft3 => draft3
  | .draft4 => draft4

end Registry

end SchemaCheck
