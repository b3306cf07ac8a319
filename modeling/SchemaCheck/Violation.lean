import SchemaCheck.Location
import SchemaCheck.Json.Render

/-!
Violations of constraints. A keyword reports a violation with its message; the enclosing levels fill
in missing fields and add their steps in front of both locations.
-/

namespace SchemaCheck

/-!
Phrases that messages share.
-/

namespace Wording

def quoted (name : String) : String :=
  "'" ++ name ++ "'"

def quotedList (names : List String) : String :=
  String.intercalate ", " (names.map quoted)

def wasWere (count : Nat) : String :=
  if count = 1 then "was" else "were"

def doesDo (count : Nat) : String :=
  if count = 1 then "does" else "do"

end Wording

structure Violation where
  message : String
  keyword : Option String
  /-- The declared value of the keyword. -/
  declared : Option Json
  /-- The value that violates the constraint. -/
  culprit : Option Json
  schema : Option Json
  schemaPath : Location
  path : Location
  /-- The violations of each branch, if none of several branches accepts the value. -/
  context : List Violation
  deriving Inhabited

namespace Violation

def ofMessage (message : String) : Violation :=
  ⟨message, none, none, none, none, [], [], []⟩

def withContext (context : List Violation) (v : Violation) : Violation :=
  { v with context }

def withKeyword (keyword : String) (declared : Json) (v : Violation) : Violation :=
  { v with keyword := some keyword, declared := some declared }

def withSchemaSuffix (step : Step) (v : Violation) : Violation :=
  { v with schemaPath := v.schemaPath ++ [step] }

/-- Sets the fields that are not set yet. -/
def fill (keyword : String) (declared culprit schema : Json) (v : Violation) : Violation :=
  { v with
    keyword := v.keyword.or (some keyword)
    declared := v.declared.or (some declared)
    culprit := v.culprit.or (some culprit)
    schema := v.schema.or (some schema) }

def underSchema (step : Step) (v : Violation) : Violation :=
  { v with schemaPath := step :: v.schemaPath }

def under (step : Step) (v : Violation) : Violation :=
  { v with path := step :: v.path }

/-- Adds the given steps in front of the two locations. -/
def nested (path schemaPath : Option Step) (v : Violation) : Violation :=
  { v with
    path := path.toList ++ v.path
    schemaPath := schemaPath.toList ++ v.schemaPath }

def prettyOr (j : Option Json) : String :=
  (j.map Json.pretty).getD "null"

/-- The message, followed by the schema and the value with their locations. -/
def display (v : Violation) : String :=
  match v.keyword with
  | none => v.message
  | some keyword =>
    v.message ++ "\n\nFailed validating '" ++ keyword ++ "' in schema" ++ v.schemaPath.bracketed ++
      ":\n" ++ prettyOr v.schema ++ "\n\nOn instance" ++ v.path.bracketed ++ ":\n" ++
      prettyOr v.culprit

end Violation

end SchemaCheck
