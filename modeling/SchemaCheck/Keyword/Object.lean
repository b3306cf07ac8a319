import SchemaCheck.Keyword.Kind

/-!
Keywords on the members of objects.
-/

namespace SchemaCheck.Keyword

/-- The members declared under `name`, if that is an object. -/
def declaredMembers (name : String) (schema : Json.Members) : Option Json.Members :=
  (Json.Members.find? name schema).bind Json.object?

/-- The keys of an object that neither `properties` nor a pattern of `patternProperties` covers. -/
def additionalKeys (object schema : Json.Members) : Walk (List String) := do
  let properties := (declaredMembers "properties" schema).getD []
  let patterns := (declaredMembers "patternProperties" schema).getD []
  let regexes ← Walk.each Walk.regex (Json.Members.keys patterns)
  return (Json.Members.keys object).filter fun key =>
    !Json.Members.contains key properties && !regexes.any (·.isMatch key)

def properties : Keyword := fun w declared subject _ =>
  match declared, subject.value with
  | .object properties, .object object =>
    Walk.collect
      (fun (name, schema) =>
        match Json.Members.find? name object with
        | some value =>
          w.descendAt (subject.child (.key name) value) schema (some (.key name))
            (some (.key name))
        | none => return [])
      properties
  | _, _ => return []

def patternProperties : Keyword := fun w declared subject _ =>
  match declared, subject.value with
  | .object patterns, .object object =>
    Walk.collect
      (fun (pattern, schema) => do
        let r ← Walk.regex pattern
        Walk.collect
          (fun (key, value) =>
            if r.isMatch key then
              w.descendAt (subject.child (.key key) value) schema (some (.key key))
                (some (.key pattern))
            else return [])
          object)
      patterns
  | _, _ => return []

/-- The text of a violation by additional members. -/
def additionalMessage (extras : List String) (schema : Json.Members) : String :=
  match declaredMembers "patternProperties" schema with
  | some patterns =>
    Wording.quotedList extras ++ " " ++ Wording.doesDo extras.length ++
      " not match any of the regexes: " ++ Wording.quotedList (Json.Members.keys patterns)
  | none =>
    "Additional properties are not allowed (" ++ Wording.quotedList extras ++ " " ++
      Wording.wasWere extras.length ++ " unexpected)"

def additionalProperties : Keyword := fun w declared subject schema =>
  match subject.value with
  | .object object => do
    let extras ← additionalKeys object schema
    match declared with
    | .object _ =>
      Walk.collect
        (fun key =>
          match Json.Members.find? key object with
          | some value =>
            w.descendAt (subject.child (.key key) value) declared (some (.key key)) none
          | none => return [])
        extras
    | .bool false =>
      if extras.isEmpty then return [] else return [.ofMessage (additionalMessage extras schema)]
    | _ => return []
  | _ => return []

def required : Keyword := fun _ declared subject _ =>
  match subject.value with
  | .object object =>
    return ((stringList declared).filter fun name => !Json.Members.contains name object).map
      fun name => .ofMessage (Wording.quoted name ++ " is a required property")
  | _ => return []

/-- One violation for each name that `property` requires and the object lacks. -/
def missingDependencies (object : Json.Members) (property : String) (names : List String) :
    List Violation :=
  (names.filter fun name => !Json.Members.contains name object).map fun name =>
    .ofMessage (Wording.quoted name ++ " is a dependency of " ++ Wording.quoted property)

/-- Members whose presence requires other members or a schema. A single name is accepted only if
`single` is set. -/
def dependenciesWith (single : Bool) : Keyword := fun w declared subject _ =>
  match declared, subject.value with
  | .object dependencies, .object object =>
    Walk.collect
      (fun (property, dependency) =>
        if !Json.Members.contains property object then return []
        else
          match dependency with
          | .object _ => w.descendAt subject dependency none (some (.key property))
          | .array _ => return missingDependencies object property (stringList dependency)
          | .string name =>
            return if single then missingDependencies object property [name] else []
          | _ => return [])
      dependencies
  | _, _ => return []

def dependencies : Keyword := dependenciesWith false

end SchemaCheck.Keyword
