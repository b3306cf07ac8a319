import SchemaCheck.Resolver

/-!
The steps of resolving: the document is taken from the cache or the fetcher, and the target from the
cache or the document. Each step has its equations and an inductive predicate with its possible
outcomes, which later proofs do cases on.
-/

namespace SchemaCheck

theorem Cache.mem_of_lookup? {key : String} {j : Json} {entries : List (String × Json)}
    (h : lookup? key entries = some j) : (key, j) ∈ entries := by
  obtain ⟨entry, hfind, rfl⟩ := Option.map_eq_some_iff.mp h
  have hkey : entry.1 = key := by simpa using List.find?_some hfind
  exact hkey ▸ List.mem_of_find?_eq_some hfind

theorem Cache.mem_insert {key : String} {j : Json} {entries : List (String × Json)}
    {entry : String × Json} (h : entry ∈ insert key j entries) :
    entry = (key, j) ∨ entry ∈ entries :=
  (List.mem_cons.mp h).imp_right fun hmem => (List.mem_filter.mp hmem).1

namespace Resolving

variable {α β : Type} {x : Resolving α} {f : α → Resolving β} {c c' : Cache}

theorem run_bind_of_ok {a : α} (h : x.run c = (.ok a, c')) : (x >>= f).run c = (f a).run c' := by
  rw [ExceptT.run_bind]
  show StateT.bind x.run _ c = _
  unfold StateT.bind
  rw [h]
  rfl

theorem run_bind_of_error {e : SchemaError} (h : x.run c = (.error e, c')) :
    (x >>= f).run c = (.error e, c') := by
  rw [ExceptT.run_bind]
  show StateT.bind x.run _ c = _
  unfold StateT.bind
  rw [h]
  rfl

theorem run_get (c : Cache) : (get : Resolving Cache).run c = (.ok c, c) :=
  rfl

theorem run_modify (f : Cache → Cache) (c : Cache) :
    (modify f : Resolving PUnit).run c = (.ok ⟨⟩, f c) :=
  rfl

end Resolving

namespace Resolver

open Resolving

variable {r : Resolver} {c c' : Cache} {u : Url} {j : Json}

/-- The document at a locator, without the cache. -/
def fetched (r : Resolver) (u : Url) : Except SchemaError Json :=
  match r.fetcher u with
  | .error e => .error e
  | .ok bytes =>
    match Document.decode u bytes with
    | .error e => .error e
    | .ok document => .ok (if r.keepsIds then document else document.without "id")

theorem fetched_eq_ok (h : r.fetched u = .ok j) :
    ∃ bytes document, r.fetcher u = .ok bytes ∧ Document.decode u bytes = .ok document ∧
      j = if r.keepsIds then document else document.without "id" := by
  unfold fetched at h
  split at h
  next => cases h
  next bytes hbytes =>
    split at h
    next => cases h
    next document hdocument => exact ⟨bytes, document, hbytes, hdocument, (Except.ok.inj h).symm⟩

theorem run_load (r : Resolver) (u : Url) (c : Cache) :
    (r.load u).run c = (r.fetched u, { c with requests := u :: c.requests }) := by
  unfold load
  rw [run_bind_of_ok (run_modify _ c)]
  unfold fetched
  cases r.fetcher u with
  | error e => rfl
  | ok bytes =>
      rw [run_bind_of_ok (show (load.liftExcept (.ok bytes)).run _ = (.ok bytes, _) from rfl)]
      dsimp only
      cases Document.decode u bytes <;> rfl

theorem run_document_of_known (h : Cache.lookup? (documentKey u) c.documents = some j) :
    (r.document u).run c = (.ok j, c) := by
  unfold document
  rw [run_bind_of_ok (run_get c)]
  rw [h]
  rfl

theorem run_document_of_fetched (hnone : Cache.lookup? (documentKey u) c.documents = none)
    (h : r.fetched u.withoutFragment = .ok j) :
    (r.document u).run c = (.ok j,
      { c with
        documents := (documentKey u, j) :: c.documents
        requests := u.withoutFragment :: c.requests }) := by
  have hload := r.run_load u.withoutFragment c
  rw [h] at hload
  unfold document
  rw [run_bind_of_ok (run_get c)]
  rw [hnone]
  dsimp only
  rw [run_bind_of_ok hload]
  show (Except.ok j, { c with
    documents := Cache.insertNew (documentKey u) j c.documents
    requests := u.withoutFragment :: c.requests }) = _
  rw [Cache.insertNew, hnone]

theorem run_document_of_error {e : SchemaError}
    (hnone : Cache.lookup? (documentKey u) c.documents = none)
    (h : r.fetched u.withoutFragment = .error e) :
    (r.document u).run c = (.error e, { c with requests := u.withoutFragment :: c.requests }) := by
  have hload := r.run_load u.withoutFragment c
  rw [h] at hload
  unfold document
  rw [run_bind_of_ok (run_get c)]
  rw [hnone]
  exact run_bind_of_error hload

/-- The outcomes of loading a document, from the cache or from the fetcher. -/
inductive DocumentRun (r : Resolver) (u : Url) (c : Cache) : Except SchemaError Json × Cache → Prop
  | known {j : Json} :
      Cache.lookup? (documentKey u) c.documents = some j → DocumentRun r u c (.ok j, c)
  | fetched {j : Json} :
      Cache.lookup? (documentKey u) c.documents = none → r.fetched u.withoutFragment = .ok j →
      DocumentRun r u c (.ok j,
        { c with
          documents := (documentKey u, j) :: c.documents
          requests := u.withoutFragment :: c.requests })
  | failed {e : SchemaError} :
      Cache.lookup? (documentKey u) c.documents = none → r.fetched u.withoutFragment = .error e →
      DocumentRun r u c (.error e, { c with requests := u.withoutFragment :: c.requests })

theorem documentRun (r : Resolver) (u : Url) (c : Cache) :
    DocumentRun r u c ((r.document u).run c) := by
  cases hlookup : Cache.lookup? (documentKey u) c.documents with
  | some j =>
      rw [run_document_of_known hlookup]
      exact .known hlookup
  | none =>
      cases hfetched : r.fetched u.withoutFragment with
      | ok j =>
          rw [run_document_of_fetched hlookup hfetched]
          exact .fetched hlookup hfetched
      | error e =>
          rw [run_document_of_error hlookup hfetched]
          exact .failed hlookup hfetched

variable {tokens : List (List Char)} {target : Json} {e : SchemaError}

theorem run_resolveUrl_of_error (h : (r.document u).run c = (.error e, c')) :
    (r.resolveUrl u).run c = (.error e, c') :=
  run_bind_of_error h

theorem run_resolveUrl_of_whole (h : (r.document u).run c = (.ok j, c'))
    (htokens : fragmentTokens? (decodedFragment u) = none) :
    (r.resolveUrl u).run c = (.ok j, c') := by
  unfold resolveUrl
  rw [run_bind_of_ok h, htokens]
  rfl

theorem run_resolveUrl_of_known (h : (r.document u).run c = (.ok j, c'))
    (htokens : fragmentTokens? (decodedFragment u) = some tokens)
    (hknown : Cache.lookup? u.write c'.fragments = some target) :
    (r.resolveUrl u).run c = (.ok target, c') := by
  unfold resolveUrl
  rw [run_bind_of_ok h, htokens]
  dsimp only
  rw [run_bind_of_ok (run_get c'), hknown]
  rfl

theorem run_resolveUrl_of_found (h : (r.document u).run c = (.ok j, c'))
    (htokens : fragmentTokens? (decodedFragment u) = some tokens)
    (hnone : Cache.lookup? u.write c'.fragments = none)
    (hwalk : Json.Pointer.walk? tokens j = some target) :
    (r.resolveUrl u).run c =
      (.ok target, { c' with fragments := Cache.insert u.write target c'.fragments }) := by
  unfold resolveUrl
  rw [run_bind_of_ok h, htokens]
  dsimp only
  rw [run_bind_of_ok (run_get c'), hnone]
  dsimp only
  rw [hwalk]
  rfl

theorem run_resolveUrl_of_missing (h : (r.document u).run c = (.ok j, c'))
    (htokens : fragmentTokens? (decodedFragment u) = some tokens)
    (hnone : Cache.lookup? u.write c'.fragments = none)
    (hwalk : Json.Pointer.walk? tokens j = none) :
    (r.resolveUrl u).run c =
      (.error (.unresolvableFragment (documentKey u) (decodedFragment u)), c') := by
  unfold resolveUrl
  rw [run_bind_of_ok h, htokens]
  dsimp only
  rw [run_bind_of_ok (run_get c'), hnone]
  dsimp only
  rw [hwalk]
  rfl

/-- The outcomes of looking up a locator: the whole document, or the target of a pointer, cached or
followed. -/
inductive ResolveUrlRun (r : Resolver) (u : Url) (c : Cache) :
    Except SchemaError Json × Cache → Prop
  | failed {e : SchemaError} {c' : Cache} :
      (r.document u).run c = (.error e, c') → ResolveUrlRun r u c (.error e, c')
  | whole {j : Json} {c' : Cache} :
      (r.document u).run c = (.ok j, c') → fragmentTokens? (decodedFragment u) = none →
      ResolveUrlRun r u c (.ok j, c')
  | known {j target : Json} {c' : Cache} {tokens : List (List Char)} :
      (r.document u).run c = (.ok j, c') → fragmentTokens? (decodedFragment u) = some tokens →
      Cache.lookup? u.write c'.fragments = some target → ResolveUrlRun r u c (.ok target, c')
  | found {j target : Json} {c' : Cache} {tokens : List (List Char)} :
      (r.document u).run c = (.ok j, c') → fragmentTokens? (decodedFragment u) = some tokens →
      Cache.lookup? u.write c'.fragments = none → Json.Pointer.walk? tokens j = some target →
      ResolveUrlRun r u c (.ok target,
        { c' with fragments := Cache.insert u.write target c'.fragments })
  | missing {j : Json} {c' : Cache} {tokens : List (List Char)} :
      (r.document u).run c = (.ok j, c') → fragmentTokens? (decodedFragment u) = some tokens →
      Cache.lookup? u.write c'.fragments = none → Json.Pointer.walk? tokens j = none →
      ResolveUrlRun r u c
        (.error (.unresolvableFragment (documentKey u) (decodedFragment u)), c')

theorem resolveUrlRun (r : Resolver) (u : Url) (c : Cache) :
    ResolveUrlRun r u c ((r.resolveUrl u).run c) := by
  rcases hdocument : (r.document u).run c with ⟨e | j, c'⟩
  · rw [run_resolveUrl_of_error hdocument]
    exact .failed hdocument
  · cases htokens : fragmentTokens? (decodedFragment u) with
    | none =>
        rw [run_resolveUrl_of_whole hdocument htokens]
        exact .whole hdocument htokens
    | some tokens =>
        cases hknown : Cache.lookup? u.write c'.fragments with
        | some target =>
            rw [run_resolveUrl_of_known hdocument htokens hknown]
            exact .known hdocument htokens hknown
        | none =>
            cases hwalk : Json.Pointer.walk? tokens j with
            | some target =>
                rw [run_resolveUrl_of_found hdocument htokens hknown hwalk]
                exact .found hdocument htokens hknown hwalk
            | none =>
                rw [run_resolveUrl_of_missing hdocument htokens hknown hwalk]
                exact .missing hdocument htokens hknown hwalk

variable {reference : String} {scopes : ScopeStack}

theorem run_resolve_of_join_error {e : Url.ParseError}
    (h : scopes.current.join reference = .error e) :
    (r.resolve reference scopes).run c = (.error (.invalidReference reference e.message), c) := by
  unfold resolve
  rw [h]
  rfl

theorem run_resolve_of_error (hjoin : scopes.current.join reference = .ok u)
    (h : (r.resolveUrl u).run c = (.error e, c')) :
    (r.resolve reference scopes).run c = (.error e, c') := by
  unfold resolve
  rw [hjoin]
  exact run_bind_of_error h

theorem run_resolve_of_ok (hjoin : scopes.current.join reference = .ok u)
    (h : (r.resolveUrl u).run c = (.ok j, c')) :
    (r.resolve reference scopes).run c = (.ok ⟨u, j⟩, c') := by
  unfold resolve
  rw [hjoin]
  exact run_bind_of_ok h

/-- The outcomes of resolving a reference. -/
inductive ResolveRun (r : Resolver) (reference : String) (scopes : ScopeStack) (c : Cache) :
    Except SchemaError Target × Cache → Prop
  | unread {e : Url.ParseError} :
      scopes.current.join reference = .error e →
      ResolveRun r reference scopes c (.error (.invalidReference reference e.message), c)
  | failed {u : Url} {e : SchemaError} {c' : Cache} :
      scopes.current.join reference = .ok u → (r.resolveUrl u).run c = (.error e, c') →
      ResolveRun r reference scopes c (.error e, c')
  | resolved {u : Url} {j : Json} {c' : Cache} :
      scopes.current.join reference = .ok u → (r.resolveUrl u).run c = (.ok j, c') →
      ResolveRun r reference scopes c (.ok ⟨u, j⟩, c')

theorem resolveRun (r : Resolver) (reference : String) (scopes : ScopeStack) (c : Cache) :
    ResolveRun r reference scopes c ((r.resolve reference scopes).run c) := by
  cases hjoin : scopes.current.join reference with
  | error e =>
      rw [run_resolve_of_join_error hjoin]
      exact .unread hjoin
  | ok u =>
      rcases hresolve : (r.resolveUrl u).run c with ⟨e | j, c'⟩
      · rw [run_resolve_of_error hjoin hresolve]
        exact .failed hjoin hresolve
      · rw [run_resolve_of_ok hjoin hresolve]
        exact .resolved hjoin hresolve

end Resolver

end SchemaCheck
