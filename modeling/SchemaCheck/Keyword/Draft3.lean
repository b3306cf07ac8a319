import SchemaCheck.Keyword.Object

/-!
The keywords that draft 3 defines differently: `type` with schemas in its list, `properties` with a
`required` flag, `dependencies` on a single name, `disallow` and `extends`.
-/

namespace SchemaCheck.Keyword.Draft3

def members : Json → List Json
  | .array items => items
  | j => [j]

/-- The name of a member of `type` in messages; for a schema, its `name` if it has one. -/
def describe (j : Json) : String :=
  match j with
  | .string name => Wording.quoted name
  | j =>
    match (j.get? "name").bind Json.string? with
    | some name => Wording.quoted name
    | none => j.render

/-- Searches for a member of `type` that the subject meets. If there is none, returns the violations
of the schemas among the members. -/
def search (w : Walker) (subject : Subject) :
    List (Json × Nat) → Walk (Option (List Violation))
  | [] => return some []
  | (.string name, _) :: rest =>
    if name = "any" then return none
    else do
      let holds ← Walk.ofExcept (hasType subject.value name)
      if holds then return none else search w subject rest
  | (.object schema, i) :: rest => do
    let violations ← w.descendAt subject (.object schema) none (some (.index i))
    if violations.isEmpty then return none
    else return (← search w subject rest).map (violations ++ ·)
  | _ :: rest => search w subject rest

def type : Keyword := fun w declared subject _ => do
  let types := members declared
  match ← search w subject types.zipIdx with
  | none => return []
  | some context =>
    return [(Violation.ofMessage (subject.value.render ++ " is not of type " ++
      String.intercalate ", " (types.map describe))).withContext context]

/-- Each member is tried as the `type` of a schema of its own, which must not hold. -/
def disallow : Keyword := fun w declared subject _ =>
  Walk.collect
    (fun disallowed => do
      let holds ← w.isValid subject (.object [("type", .array [disallowed])])
      if holds then
        return [.ofMessage (disallowed.render ++ " is disallowed for " ++ subject.value.render)]
      else return [])
    (members declared)

def bases : Keyword := fun w declared subject _ =>
  match declared with
  | .object _ => w.descend subject declared
  | .array parents =>
    Walk.collect (fun (parent, i) => w.descendAt subject parent none (some (.index i)))
      parents.zipIdx
  | _ => return []

/-- The violation for a missing property that is required; its schema path ends in `required` below
the property. -/
def missing (name : String) (schema : Json) : List Violation :=
  match schema.get? "required" with
  | some (.bool true) =>
    [(((Violation.ofMessage (Wording.quoted name ++ " is a required property")).withKeyword
      "required" (.bool true)).withSchemaSuffix (.key name)).withSchemaSuffix (.key "required")]
  | _ => []

def properties : Keyword := fun w declared subject _ =>
  match declared, subject.value with
  | .object properties, .object object =>
    Walk.collect
      (fun (name, schema) =>
        match Json.Members.find? name object with
        | some value =>
          w.descendAt (subject.child (.key name) value) schema (some (.key name))
            (some (.key name))
        | none => return missing name schema)
      properties
  | _, _ => return []

def dependencies : Keyword := dependenciesWith true

end SchemaCheck.Keyword.Draft3
