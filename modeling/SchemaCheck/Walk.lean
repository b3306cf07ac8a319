import SchemaCheck.Regex.Parser
import SchemaCheck.Resolver
import SchemaCheck.Violation

/-!
The state of a walk over a schema and an instance, and computations on it. The state is kept on
failures, and every scope or frame that a computation has entered is left again in every outcome.
-/

namespace SchemaCheck

/-- The flags of the ban on unknown properties at the schema node being applied. -/
structure Frame where
  /-- The flag that child schemas inherit. -/
  ban : Bool
  /-- The override that a reference at this node passes on to its target. -/
  refOverride : Option Bool
  /-- The branches of this node are applied with the ban off. -/
  suppressBranchBan : Bool
  deriving DecidableEq

/-- The documents and compiled patterns that are kept between walks. -/
structure Memory where
  cache : Cache
  patterns : List (String × Regex)

structure WalkState where
  scopes : ScopeStack
  frame : Frame
  /-- The open references: the locator of each target and the location of the value that it is
  followed for. -/
  following : List (String × Location)
  memory : Memory

/-- The failures of a walk. -/
inductive Failure where
  | schema (e : SchemaError)
  /-- The remainder of the least signed integer by minus one is taken. -/
  | remainderOverflow
  /-- The limit on nested applications of schemas is exceeded. -/
  | tooDeep
  deriving DecidableEq

def Walk (α : Type) : Type :=
  WalkState → Except Failure α × WalkState

namespace Walk

variable {α β : Type}

def pure (a : α) : Walk α :=
  fun s => (.ok a, s)

def bind (x : Walk α) (f : α → Walk β) : Walk β :=
  fun s =>
    match x s with
    | (.ok a, s) => f a s
    | (.error e, s) => (.error e, s)

instance : Monad Walk where
  pure := Walk.pure
  bind := Walk.bind

def fail (e : Failure) : Walk α :=
  fun s => (.error e, s)

def failWith (e : SchemaError) : Walk α :=
  fail (.schema e)

def read : Walk WalkState :=
  fun s => (.ok s, s)

def update (f : WalkState → WalkState) : Walk Unit :=
  fun s => (.ok (), f s)

/-- Runs `x` and then `f` on the state, also if `x` fails. -/
def ensuring (x : Walk α) (f : WalkState → WalkState) : Walk α :=
  fun s => ((x s).1, f (x s).2)

def ofExcept (x : Except SchemaError α) : Walk α :=
  match x with
  | .ok a => pure a
  | .error e => failWith e

/-- Runs a computation on the cache of the walk. -/
def resolving (x : Resolving α) : Walk α :=
  fun s =>
    let (result, cache) := x.run s.memory.cache
    (result.mapError .schema, { s with memory := { s.memory with cache } })

/-- The concatenated results of `f`, up to the first failure. -/
def collect (f : α → Walk (List β)) : List α → Walk (List β)
  | [] => pure []
  | a :: rest => do
    let bs ← f a
    let more ← collect f rest
    return bs ++ more

/-- The list of results of `f`, up to the first failure. -/
def each (f : α → Walk β) : List α → Walk (List β)
  | [] => pure []
  | a :: rest => do
    let b ← f a
    let bs ← each f rest
    return b :: bs

def inScope (u : Url) (x : Walk α) : Walk α := do
  update fun s => { s with scopes := s.scopes.push u }
  ensuring x fun s => { s with scopes := s.scopes.pop.2 }

/-- Runs `x` under a new frame, and in a new scope if one is given. -/
def inNode (scope : Option Url) (frame : Frame) (x : Walk α) : Walk α := do
  let outer := (← read).frame
  let framed := do
    update fun s => { s with frame }
    ensuring x fun s => { s with frame := outer }
  match scope with
  | some u => inScope u framed
  | none => framed

/-- The expression of a pattern, cached in the memory. -/
def regex (pattern : String) : Walk Regex := do
  match ((← read).memory.patterns.find? (·.1 = pattern)) with
  | some (_, r) => return r
  | none =>
    match Regex.parse? pattern with
    | some r =>
      update fun s =>
        { s with memory := { s.memory with patterns := (pattern, r) :: s.memory.patterns } }
      return r
    | none => failWith (.invalidPattern pattern)

end Walk

/-- A value inside the instance and its location. -/
structure Subject where
  value : Json
  place : Location

namespace Subject

def root (value : Json) : Subject := ⟨value, []⟩

def child (step : Step) (value : Json) (s : Subject) : Subject :=
  ⟨value, s.place ++ [step]⟩

end Subject

/-- The operations that a keyword may use: resolving references, and applying another schema to a
subject with an optional override of the flag that it inherits. -/
structure Walker where
  resolver : Resolver
  /-- Whether reference cycles are reported. -/
  findsCycles : Bool
  visit : Subject → Json → Option Bool → Walk (List Violation)

/-- A keyword computes the violations of a subject from its declared value, the subject and the
members of the schema around it. -/
abbrev Keyword := Walker → Json → Subject → Json.Members → Walk (List Violation)

namespace Walker

variable (w : Walker)

/-- Applies a schema under the inherited flag. -/
def descend (subject : Subject) (schema : Json) : Walk (List Violation) :=
  w.visit subject schema none

/-- Applies a schema one step further in the instance, in the schema or in both. -/
def descendAt (subject : Subject) (schema : Json) (path schemaPath : Option Step) :
    Walk (List Violation) := do
  let violations ← w.descend subject schema
  return violations.map (·.nested path schemaPath)

/-- Applies the branch of a combinator, with the ban off if the node has checked the union of its
branches. -/
def applyBranch (subject : Subject) (branch : Json) : Walk (List Violation) := do
  let s ← Walk.read
  w.visit subject branch (if s.frame.suppressBranchBan then some false else none)

def descendBranch (subject : Subject) (branch : Json) (index : Nat) : Walk (List Violation) := do
  let violations ← w.applyBranch subject branch
  return violations.map (·.nested none (some (.index index)))

def isValid (subject : Subject) (schema : Json) : Walk Bool := do
  let violations ← w.descend subject schema
  return violations.isEmpty

def resolve (reference : String) : Walk Target := do
  let scopes := (← Walk.read).scopes
  Walk.resolving (w.resolver.resolve reference scopes)

/-- Applies the target of a reference in its own scope, with the override of the referring node. A
target that is already open for the same subject is a reference cycle. -/
def follow (reference : String) (target : Target) (subject : Subject) :
    Walk (List Violation) := do
  let s ← Walk.read
  let key := (target.url.write, subject.place)
  if w.findsCycles ∧ s.following.contains key then
    Walk.failWith (.invalidReference reference "reference cycle")
  else do
    Walk.update fun s => { s with following := key :: s.following }
    Walk.ensuring
      (Walk.inScope target.url (w.visit subject target.schema s.frame.refOverride))
      fun s => { s with following := s.following.tail }

/-- Resolves a reference and applies its target. -/
def refer (reference : String) (subject : Subject) : Walk (List Violation) := do
  let target ← w.resolve reference
  w.follow reference target subject

end Walker

end SchemaCheck
