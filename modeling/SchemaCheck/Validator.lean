import SchemaCheck.Fetch
import SchemaCheck.Report
import SchemaCheck.Visit

/-!
Validators: a root schema with its registry, its resolver and its settings. The documents and
patterns of a validation are kept in a memory for later validations.
-/

namespace SchemaCheck

structure Validator where
  schema : Json
  draft : Draft
  config : Config
  setting : Setting
  /-- The limit on nested applications of schemas. -/
  depth : Nat

/-- A computation on the memory of a validator, whose changes are kept if it fails. -/
abbrev Checking := ExceptT Failure (StateM Memory)

namespace Validator

/-- The memory before the first validation. -/
def memory (v : Validator) : Memory :=
  ⟨v.setting.resolver.seed v.schema, []⟩

/-- The initial state of a walk. -/
def start (v : Validator) (config : Config) (memory : Memory) : WalkState :=
  { scopes := v.setting.resolver.scopes
    frame := ⟨config.bansUnknown, none, false⟩
    following := []
    memory }

/-- The violations of an instance in the order of the walk. -/
def violations (v : Validator) (instance_ : Json) (config : Config) :
    Checking (List Violation) :=
  fun memory =>
    let (result, s) :=
      v.setting.visit v.depth (.root instance_) v.schema none (v.start config memory)
    (result, s.memory)

def report (v : Validator) (instance_ : Json) (config : Config) : Checking Report := do
  return .sorted (← v.violations instance_ config)

def isValid (v : Validator) (instance_ : Json) (config : Config) : Checking Bool := do
  return (← v.violations instance_ config).isEmpty

/-- Succeeds if the instance is valid, and otherwise returns the error for its report. -/
def verdict (v : Validator) (instance_ : Json) (config : Config) :
    Checking (Except Invalid Unit) := do
  return (← v.report instance_ config).verdict

end Validator

/-- The options for building a validator. -/
structure Options where
  draft : Draft
  /-- The top-level `id` of each document is kept and determines its base. -/
  keepsIds : Bool
  config : Config
  /-- The registry, if it is not that of the draft. -/
  registry : Option Registry
  fetcher : Fetcher
  depth : Nat

namespace Options

def depthLimit : Nat := 100000

def standard (fetcher : Fetcher) : Options :=
  ⟨.draft4, false, .standard, none, fetcher, depthLimit⟩

def resolver (o : Options) (base : Url) : Resolver :=
  ⟨base, o.keepsIds, o.fetcher⟩

/-- The validator of a schema from which the `id` has been removed if necessary. -/
def assemble (o : Options) (schema : Json) (base : Url) : Validator :=
  { schema
    draft := o.draft
    config := o.config
    setting :=
      { registry := o.registry.getD (.ofDraft o.draft)
        resolver := o.resolver base
        findsCycles := true
        checksUnions := true }
    depth := o.depth }

def build (o : Options) (schema : Json) (base : Url) : Validator :=
  o.assemble (if o.keepsIds then schema else schema.without "id") base

/-- The validator of the document at a locator. -/
def load (o : Options) (uri : String) : Resolving Validator :=
  match Url.parse uri with
  | .error e => throw (.invalidUri uri e)
  | .ok base => do
    let schema ← (o.resolver base).load base
    return o.assemble schema base

/-- The validator of the file at a path. -/
def loadFile (o : Options) (files : FileTree) (path : Utf8.Bytes) : Resolving Validator :=
  match files.canonical path with
  | .ok place => o.load (Url.ofPlace place)
  | .error e => throw (.io e.message)

end Options

namespace Validator

/-- The base of a schema without an absolute `id`. -/
def defaultBase : Url :=
  { scheme := "memory"
    authority := some ⟨"", "", none⟩
    path := .rooted ["schema.json"]
    query := none
    fragment := none }

/-- The `id` of a schema joined with the default base. -/
def baseOf (schema : Json) : Except SchemaError Url :=
  match (schema.get? "id").bind Json.string? with
  | none => .ok defaultBase
  | some id =>
    match defaultBase.join id with
    | .ok u => .ok u
    | .error e => .error (.invalidUri id e)

/-- The validator of a schema with the standard options. -/
def ofSchema (fetcher : Fetcher) (schema : Json) : Except SchemaError Validator := do
  let base ← baseOf schema
  return (Options.standard fetcher).build schema base

end Validator

end SchemaCheck
