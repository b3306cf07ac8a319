import SchemaCheck.Document
import SchemaCheck.Json.Pointer
import SchemaCheck.Scope
import SchemaCheck.Text.Percent

/-!
Resolution of references. A resolver joins a reference with a scope, retrieves the document once,
and follows the fragment as a pointer. Unless ids are kept, the top-level `id` of a retrieved
document is removed before the document is used, so that references inside it are joined with the
locator the document was retrieved from.
-/

namespace SchemaCheck

/-- Retrieves the bytes of the document at a locator. -/
abbrev Fetcher := Url → Except SchemaError Utf8.Bytes

structure Resolver where
  base : Url
  keepsIds : Bool
  fetcher : Fetcher

/-- Documents by locator without fragment, targets by full locator, and the requests in reverse
order. -/
structure Cache where
  documents : List (String × Json)
  fragments : List (String × Json)
  requests : List Url

/-- A computation on the cache, whose changes are kept if it fails. -/
abbrev Resolving := ExceptT SchemaError (StateM Cache)

/-- The target of a reference and its full locator. -/
structure Target where
  url : Url
  schema : Json

namespace Cache

def lookup? (key : String) (entries : List (String × Json)) : Option Json :=
  (entries.find? (·.1 = key)).map (·.2)

/-- Adds an entry unless the key has one. -/
def insertNew (key : String) (value : Json) (entries : List (String × Json)) :
    List (String × Json) :=
  match lookup? key entries with
  | some _ => entries
  | none => (key, value) :: entries

/-- Adds an entry or replaces the one of the key. -/
def insert (key : String) (value : Json) (entries : List (String × Json)) :
    List (String × Json) :=
  (key, value) :: entries.filter (·.1 ≠ key)

end Cache

def documentKey (u : Url) : String :=
  u.withoutFragment.write

namespace Resolver

def scopes (r : Resolver) : ScopeStack := .ofBase r.base

/-- The cache with the root document under the base and, where ids are kept, under its own `id` as
well. -/
def seed (r : Resolver) (root : Json) : Cache :=
  let underId :=
    match r.keepsIds, (root.get? "id").bind Json.string? with
    | true, some id =>
      match r.base.join id with
      | .ok u => Cache.insert (documentKey u) root []
      | .error _ => []
    | _, _ => []
  ⟨Cache.insert (documentKey r.base) root underId, [], []⟩

/-- Retrieves the document at a locator without looking at the cache. -/
def load (r : Resolver) (u : Url) : Resolving Json := do
  modify fun c => { c with requests := u :: c.requests }
  let bytes ← liftExcept (r.fetcher u)
  let document ← liftExcept (Document.decode u bytes)
  return if r.keepsIds then document else document.without "id"
where
  liftExcept {α : Type} (x : Except SchemaError α) : Resolving α :=
    match x with
    | .ok a => pure a
    | .error e => throw e

def document (r : Resolver) (u : Url) : Resolving Json := do
  let key := documentKey u
  match Cache.lookup? key (← get).documents with
  | some j => return j
  | none =>
    let j ← r.load u.withoutFragment
    modify fun c => { c with documents := Cache.insertNew key j c.documents }
    return j

/-- The fragment of a locator after percent-decoding. -/
def decodedFragment (u : Url) : String :=
  (u.fragment.map fun f => Utf8.decodeLossy (Percent.decode f)).getD ""

/-- The tokens of a fragment, or none if it refers to the whole document. -/
def fragmentTokens? (fragment : String) : Option (List (List Char)) :=
  match fragment.toList.dropWhile (· = '/') with
  | [] => none
  | s => some (Json.Pointer.tokens s)

def resolveUrl (r : Resolver) (u : Url) : Resolving Json := do
  let j ← r.document u
  match fragmentTokens? (decodedFragment u) with
  | none => return j
  | some tokens =>
    match Cache.lookup? u.write (← get).fragments with
    | some target => return target
    | none =>
      match Json.Pointer.walk? tokens j with
      | some target =>
        modify fun c => { c with fragments := Cache.insert u.write target c.fragments }
        return target
      | none => throw (.unresolvableFragment (documentKey u) (decodedFragment u))

/-- The target of a reference in the current scope. -/
def resolve (r : Resolver) (reference : String) (scopes : ScopeStack) : Resolving Target :=
  match scopes.current.join reference with
  | .ok url => do
    let schema ← r.resolveUrl url
    return { url, schema }
  | .error e => throw (.invalidReference reference e.message)

end Resolver

end SchemaCheck
