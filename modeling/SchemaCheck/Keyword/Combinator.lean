import SchemaCheck.Walk

/-!
Keywords that apply other schemas to the subject of the node: the combinators and `$ref`. The
branches of `allOf` and `anyOf` may be relieved of the ban by their node; those of `oneOf` and `not`
are not.
-/

namespace SchemaCheck.Keyword

def allOf : Keyword := fun w declared subject _ =>
  match declared with
  | .array branches =>
    Walk.collect (fun (branch, i) => w.descendBranch subject branch i) branches.zipIdx
  | _ => return []

/-- Applies the schemas in order up to the first one without violations and returns its number, or
else the violations of all of them. -/
def firstValid (apply : Json × Nat → Walk (List Violation)) :
    List (Json × Nat) → Walk (Except (List Violation) Nat)
  | [] => return .error []
  | branch :: rest => do
    let violations ← apply branch
    if violations.isEmpty then return .ok branch.2
    else
      match ← firstValid apply rest with
      | .ok i => return .ok i
      | .error more => return .error (violations ++ more)

def noneValid (subject : Subject) (context : List Violation) : Violation :=
  (Violation.ofMessage
    (subject.value.render ++ " is not valid under any of the given schemas")).withContext context

def anyOf : Keyword := fun w declared subject _ =>
  match declared with
  | .array branches => do
    match ← firstValid (fun (branch, i) => w.descendBranch subject branch i)
        branches.zipIdx with
    | .ok _ => return []
    | .error context => return [noneValid subject context]
  | _ => return []

/-- The schemas that hold of the subject. -/
def validAmong (w : Walker) (subject : Subject) : List Json → Walk (List Json)
  | [] => return []
  | branch :: rest => do
    let holds ← w.isValid subject branch
    let more ← validAmong w subject rest
    return if holds then branch :: more else more

def oneOf : Keyword := fun w declared subject _ =>
  match declared with
  | .array branches => do
    match ← firstValid (fun (branch, i) => w.descendAt subject branch none (some (.index i)))
        branches.zipIdx with
    | .error context => return [noneValid subject context]
    | .ok first =>
      let others ← validAmong w subject (branches.drop (first + 1))
      if others.isEmpty then return []
      else
        let all := others ++ (branches.drop first).take 1
        return [.ofMessage (subject.value.render ++ " is valid under each of " ++
          String.intercalate ", " (all.map Json.render))]
  | _ => return []

def not : Keyword := fun w declared subject _ => do
  let holds ← w.isValid subject declared
  if holds then
    return [.ofMessage (declared.render ++ " is not allowed for " ++ subject.value.render)]
  else return []

/-- The target takes the place of the node. -/
def reference : Keyword := fun w declared subject _ =>
  match declared with
  | .string reference => w.refer reference subject
  | _ => Walk.failWith (.invalidReference declared.render "$ref must be a string")

end SchemaCheck.Keyword
