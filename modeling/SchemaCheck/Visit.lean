import SchemaCheck.Registry

/-!
Application of a schema to a subject. A node enters the scope of its `id`, determines the flag of
the ban in force, checks the union of its branches if it combines some under the ban, and then runs
its keywords; a reference excludes all other keywords. The violations of a keyword are filled in and
moved below its name.
-/

namespace SchemaCheck

/-- The parameters of a walk. -/
structure Setting where
  registry : Registry
  resolver : Resolver
  findsCycles : Bool
  checksUnions : Bool

namespace Setting

def refKeyword : String := "$ref"

def combinators : List String := ["allOf", "anyOf"]

/-- Runs the keyword that is registered under `name`, if any. References do not show in
locations. -/
def applyKeyword (t : Setting) (w : Walker) (name : String) (declared : Json) (subject : Subject)
    (schema : Json.Members) : Walk (List Violation) :=
  match t.registry.lookup? name with
  | none => return []
  | some keyword => do
    let violations ← keyword w declared subject schema
    return violations.map fun v =>
      let v := v.fill name declared subject.value (.object schema)
      if name = refKeyword then v else v.underSchema (.key name)

/-- The branches that a node combines under a name, if there are any. -/
def branchesOf (schema : Json.Members) (name : String) : Option (List Json) :=
  match Json.Members.find? name schema with
  | some (.array []) => none
  | some (.array branches) => some branches
  | _ => none

/-- The lists of branches whose unions are checked at this node. -/
def unions (t : Setting) (effective : Bool) (schema : Json.Members) : List (List Json) :=
  if t.checksUnions && effective then combinators.filterMap (branchesOf schema) else []

/-- Runs the ban on the node itself, unless its unions have been checked instead. -/
def applyBan (t : Setting) (w : Walker) (checked effective : Bool) (subject : Subject)
    (schema : Json.Members) : Walk (List Violation) :=
  if checked then return []
  else t.applyKeyword w Ban.keyword (.bool effective) subject schema

/-- Runs the keywords of a node: only the reference if there is one, and otherwise the ban followed
by all others. -/
def applyKeywords (t : Setting) (w : Walker) (checked effective : Bool) (subject : Subject)
    (schema : Json.Members) : Walk (List Violation) :=
  match Json.Members.find? refKeyword schema with
  | some reference => t.applyKeyword w refKeyword reference subject schema
  | none => do
    let plain ← t.applyBan w checked effective subject schema
    let others ← Walk.collect
      (fun (name, declared) =>
        if name = Ban.keyword then pure []
        else t.applyKeyword w name declared subject schema)
      schema
    return plain ++ others

/-- Checks the unions of a node and then runs its keywords. The branches of a checked union are
applied with the ban off. -/
def applyMembers (t : Setting) (w : Walker) (effective : Bool) (subject : Subject)
    (schema : Json.Members) : Walk (List Violation) := do
  let unions := t.unions effective schema
  let unknown ← Walk.collect (Ban.onBranches w effective subject) unions
  Walk.update fun s =>
    { s with frame := { s.frame with suppressBranchBan := !unions.isEmpty } }
  let violations ← t.applyKeywords w (!unions.isEmpty) effective subject schema
  return unknown ++ violations

/-- The scope that a node declares, joined with the current one. -/
def declaredScope (schema : Json.Members) (scopes : ScopeStack) :
    Except SchemaError (Option Url) :=
  match (Json.Members.find? "id" schema).bind Json.string? with
  | none => .ok none
  | some id =>
    match scopes.current.join id with
    | .ok u => .ok (some u)
    | .error e => .error (.invalidUri id e)

/-- The flag of the ban that a node declares. -/
def ownBan (schema : Json.Members) : Option Bool :=
  (Json.Members.find? Ban.keyword schema).bind Json.bool?

/-- The flag in force at a node: its own flag, otherwise the override, otherwise the inherited
flag. -/
def effectiveBan (schema : Json.Members) (override : Option Bool) (inherited : Bool) : Bool :=
  ((ownBan schema).or override).getD inherited

/-- The frame that a node is applied under. Its children inherit its own flag or the inherited one,
and a reference passes on the override if the node has no flag. -/
def frameOf (schema : Json.Members) (override : Option Bool) (inherited : Bool) : Frame :=
  { ban := (ownBan schema).getD inherited
    refOverride := if (ownBan schema).isSome then none else override
    suppressBranchBan := false }

/-- Applies a schema. A schema that is not an object accepts everything. -/
def applySchema (t : Setting) (w : Walker) (subject : Subject) (schema : Json)
    (override : Option Bool) : Walk (List Violation) :=
  match schema with
  | .object members => do
    let s ← Walk.read
    let scope ← Walk.ofExcept (declaredScope members s.scopes)
    Walk.inNode scope (frameOf members override s.frame.ban)
      (t.applyMembers w (effectiveBan members override s.frame.ban) subject members)
  | _ => return []

/-- Applies schemas with at most `depth` nested applications. -/
def visit (t : Setting) : Nat → Subject → Json → Option Bool → Walk (List Violation)
  | 0, _, _, _ => Walk.fail .tooDeep
  | depth + 1, subject, schema, override =>
    let w : Walker :=
      { resolver := t.resolver, findsCycles := t.findsCycles, visit := t.visit depth }
    t.applySchema w subject schema override

end Setting

end SchemaCheck
