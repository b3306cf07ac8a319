import SchemaCheck.Walk

/-!
Keywords on the kind and the value of the subject as a whole: `type` in its plain form, `enum`, and
`pattern` for strings.
-/

namespace SchemaCheck.Keyword

/-- The strings of a value that is a string or a list. -/
def stringList : Json → List String
  | .string s => [s]
  | .array items => items.filterMap Json.string?
  | _ => []

/-- Whether the value is of the type that a name denotes. -/
def hasType (value : Json) (name : String) : Except SchemaError Bool :=
  match Json.Primitive.ofName? name with
  | some p => .ok (p.admits value)
  | none => .error (.unknownType name)

/-- Whether the value is of one of the types. Names after the first match are not looked up. -/
def hasSomeType (value : Json) : List String → Except SchemaError Bool
  | [] => .ok false
  | name :: rest =>
    match hasType value name with
    | .ok true => .ok true
    | .ok false => hasSomeType value rest
    | .error e => .error e

def type : Keyword := fun _ declared subject _ => do
  let names := stringList declared
  let holds ← Walk.ofExcept (hasSomeType subject.value names)
  if holds then return []
  else
    return [.ofMessage (subject.value.render ++ " is not of type " ++ Wording.quotedList names)]

def enum : Keyword := fun _ declared subject _ =>
  match declared with
  | .array allowed =>
    if allowed.any fun candidate => candidate.equal subject.value then return []
    else return [.ofMessage (subject.value.render ++ " is not one of " ++ declared.render)]
  | _ => return []

def pattern : Keyword := fun _ declared subject _ =>
  match declared, subject.value with
  | .string pattern, .string text => do
    let r ← Walk.regex pattern
    if r.isMatch text then return []
    else
      return [.ofMessage (subject.value.render ++ " does not match " ++ Wording.quoted pattern)]
  | _, _ => return []

end SchemaCheck.Keyword
