import SchemaCheck.Keyword.Object

/-!
The ban on unknown properties. A schema that declares `properties` or `patternProperties` reports
the keys of an object that it does not declare. A schema that combines branches reports the names
that no branch declares, where a branch with a `$ref` stands for its target.
-/

namespace SchemaCheck.Ban

def keyword : String := "banUnknownProperties"

def insertName (name : String) : List String → List String
  | [] => [name]
  | n :: rest =>
    if name < n then name :: n :: rest
    else if name = n then n :: rest
    else n :: insertName name rest

/-- The names in ascending order, each once. -/
def nameSet (names : List String) : List String :=
  names.foldl (fun set name => insertName name set) []

/-- The text of a violation that names `extras`. Both lists are sorted and without duplicates. -/
def message (extras patterns : List String) (schema : Json) : String :=
  if patterns.isEmpty then
    keyword ++ " (Additional properties are not allowed (" ++ Wording.quotedList extras ++ " " ++
      Wording.wasWere extras.length ++ " unexpected))\nschema: " ++ schema.render
  else
    keyword ++ ": " ++ Wording.quotedList extras ++ " " ++ Wording.doesDo extras.length ++
      " not match any of the regexes: " ++ Wording.quotedList patterns

/-- The ban on a single schema object; `declared` is the flag in force. -/
def onObject : Keyword := fun _ declared subject schema =>
  match declared, subject.value with
  | .bool true, .object object =>
    if Json.Members.contains "properties" schema ∨
        Json.Members.contains "patternProperties" schema then do
      let extras := nameSet (← Keyword.additionalKeys object schema)
      let patterns := (Keyword.declaredMembers "patternProperties" schema).getD []
      if extras.isEmpty then return []
      else
        return [.ofMessage (message extras (nameSet (Json.Members.keys patterns)) (.object schema))]
    else return []
  | _, _ => return []

/-- The names that have to be declared: the keys of an object, or the strings in an array. -/
def candidates? : Json → Option (List String)
  | .object object => some (Json.Members.keys object)
  | .array items => some (items.filterMap Json.string?)
  | _ => none

/-- The branch itself, or the target of its `$ref`. -/
def branchTarget (w : Walker) (branch : Json) : Walk Json :=
  match (branch.get? "$ref").bind Json.string? with
  | some reference => do return (← w.resolve reference).schema
  | none => return branch

/-- The keys that a schema declares under `name`. -/
def declaredKeys (name : String) (schema : Json) : List String :=
  match schema.get? name with
  | some (.object members) => Json.Members.keys members
  | _ => []

/-- The patterns of all branches compiled as one alternation, or none if there is no pattern. -/
def alternation (patterns : List String) : Walk (Option Regex) :=
  if patterns.isEmpty then return none
  else do return some (← Walk.regex (String.intercalate "|" patterns))

/-- The ban on the branches of one combinator. -/
def onBranches (w : Walker) (effective : Bool) (subject : Subject) (branches : List Json) :
    Walk (List Violation) :=
  match candidates? subject.value with
  | none => return []
  | some candidates => do
    let targets ← Walk.each (branchTarget w) branches
    let properties := nameSet (targets.flatMap (declaredKeys "properties"))
    let patterns := nameSet (targets.flatMap (declaredKeys "patternProperties"))
    let union ← alternation patterns
    let extras := nameSet <| candidates.filter fun name =>
      !properties.contains name && !(union.map (·.isMatch name)).getD false
    if extras.isEmpty then return []
    else
      let schema := Json.array branches
      let violation := Violation.ofMessage (message extras patterns schema)
      return [(violation.fill keyword (.bool effective) subject.value schema).underSchema
        (.key keyword)]

end SchemaCheck.Ban
