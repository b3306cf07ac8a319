import SchemaCheck.Proofs.Resolver.Uncached

/-!
References that stay in the root. The locators of the root are its base and, if ids are kept, the
base joined with its `id`, each with any fragment. The root is cached under these locators from the
start, and a reference that consists of a fragment leads from one of them to another one, so that
the fetcher plays no part in resolving it.
-/

namespace SchemaCheck.Resolver

/-- Apart from its fragment, the locator is one of the root. -/
inductive AtRoot (r : Resolver) (root : Json) (u : Url) : Prop
  | base : u.bare = r.base.bare → AtRoot r root u
  | id {text : String} {declared : Url} :
      r.keepsIds = true → root.get? "id" = some (.string text) → r.base.join text = .ok declared →
      u.bare = declared.bare → AtRoot r root u

/-- Every reference of the root consists of a fragment, and it has no `id` but the one at its top,
which does not change a locator that it has already been joined with. -/
structure SelfContained (r : Resolver) (root : Json) : Prop where
  below : root.idsBelow = []
  kept : ∀ id, root.get? "id" = some (.string id) → r.keepsIds = true
  stable : ∀ id declared again, root.get? "id" = some (.string id) →
    r.base.join id = .ok declared → declared.join id = .ok again → again.bare = declared.bare
  references : ∀ part ∈ root.parts, ∀ reference, part.get? "$ref" = some (.string reference) →
    reference.toList.head? = some '#'

variable {r : Resolver} {root : Json} {c : Cache} {u v : Url}

theorem join_congr (h : u.bare = v.bare) (text : String) : u.join text = v.join text := by
  rw [← Url.join_bare u, h, Url.join_bare]

theorem documentKey_congr (h : u.bare = v.bare) : documentKey u = documentKey v := by
  rw [documentKey, documentKey, ← Url.withoutFragment_bare u, h, Url.withoutFragment_bare]

namespace AtRoot

theorem of_bare (h : r.AtRoot root u) (hbare : v.bare = u.bare) : r.AtRoot root v := by
  cases h with
  | base hbase => exact .base (hbare.trans hbase)
  | id hkeeps hid hjoin hdeclared => exact .id hkeeps hid hjoin (hbare.trans hdeclared)

theorem rootKey (h : r.AtRoot root u) : r.RootKey root (documentKey u) := by
  cases h with
  | base hbase =>
      rw [documentKey_congr hbase]
      exact .base
  | id hkeeps hid hjoin hdeclared =>
      rw [documentKey_congr hdeclared]
      exact .id hkeeps hid hjoin

/-- Joining the `id` of the root with a locator of the root gives a locator of the root. -/
theorem join_id (hr : r.SelfContained root) (h : r.AtRoot root u) {id : String}
    (hid : root.get? "id" = some (.string id)) (hjoin : u.join id = .ok v) :
    r.AtRoot root v := by
  cases h with
  | base hbase =>
      rw [join_congr hbase] at hjoin
      exact .id (hr.kept id hid) hid hjoin rfl
  | @id text declared hkeeps htext hdeclared hbare =>
      obtain rfl : id = text := by
        rw [hid] at htext
        exact Json.string.inj (Option.some.inj htext)
      rw [join_congr hbare] at hjoin
      exact .id hkeeps hid hdeclared (hr.stable id declared v hid hdeclared hjoin)

end AtRoot

theorem lookup?_seed_of_rootKey {key : String} (h : r.RootKey root key) :
    Cache.lookup? key (r.seed root).documents = some root := by
  by_cases hbase : documentKey r.base = key
  · rw [← hbase, lookup?_seed_base]
  · cases h with
    | base => exact absurd rfl hbase
    | @id text declared hkeeps hid hjoin =>
        rw [seed]
        dsimp only
        rw [Cache.lookup?_insert_of_ne hbase, hkeeps, hid]
        simp only [Option.bind_some, Json.string?, hjoin]
        exact Cache.lookup?_insert_self ..

theorem AtRoot.lookup? (h : r.AtRoot root u) (hc : c.Sound r root) :
    Cache.lookup? (documentKey u) c.documents = some root :=
  hc.seeded _ _ (lookup?_seed_of_rootKey h.rootKey)

theorem AtRoot.documentAt (h : r.AtRoot root u) : r.documentAt root u = .ok root := by
  rw [Resolver.documentAt, lookup?_seed_of_rootKey h.rootKey]

/-- If the document is cached, nothing is requested. -/
theorem requests_resolveUrl (h : Cache.lookup? (documentKey u) c.documents = some root) :
    ((r.resolveUrl u).run c).2.requests = c.requests := by
  have hdocument := run_document_of_known (r := r) h
  have hrun := r.resolveUrlRun u c
  generalize (r.resolveUrl u).run c = q at hrun ⊢
  cases hrun with
  | failed hfailed =>
      rw [hdocument] at hfailed
      cases hfailed
  | whole hj | known hj | found hj | missing hj =>
      rw [hdocument] at hj
      cases hj
      rfl

/-- If the document is cached, the result does not depend on the fetcher. -/
theorem resolveUrl_withFetcher (h : Cache.lookup? (documentKey u) c.documents = some root)
    (fetcher : Fetcher) :
    (Resolver.resolveUrl { r with fetcher } u).run c = (r.resolveUrl u).run c := by
  have hdocument := run_document_of_known (r := r) h
  have hother := run_document_of_known (r := { r with fetcher }) h
  unfold resolveUrl
  rw [Resolving.run_bind_of_ok hdocument, Resolving.run_bind_of_ok hother]

/-- Joining a fragment with a locator of the root gives a locator of the root. -/
theorem AtRoot.join (h : r.AtRoot root u) {reference : String}
    (hreference : reference.toList.head? = some '#') (hjoin : u.join reference = .ok v) :
    r.AtRoot root v :=
  h.of_bare (Url.bare_join_of_hash hreference hjoin)

variable {scopes : ScopeStack} {reference : String}

/-- At a locator of the root, references are resolved without the fetcher. -/
theorem resolve_of_atRoot (h : r.AtRoot root scopes.current) (hc : c.Sound r root)
    (hreference : reference.toList.head? = some '#') (fetcher : Fetcher) :
    ((r.resolve reference scopes).run c).2.requests = c.requests ∧
      (Resolver.resolve { r with fetcher } reference scopes).run c =
        (r.resolve reference scopes).run c := by
  cases hjoin : scopes.current.join reference with
  | error e =>
      rw [run_resolve_of_join_error hjoin, run_resolve_of_join_error hjoin]
      exact ⟨rfl, rfl⟩
  | ok u =>
      have hlookup := (h.join hreference hjoin).lookup? hc
      have hrequests := requests_resolveUrl (r := r) hlookup
      have hsame := resolveUrl_withFetcher (r := r) hlookup fetcher
      rcases hrun : (r.resolveUrl u).run c with ⟨e | j, c'⟩
      · rw [hrun] at hrequests hsame
        rw [run_resolve_of_error hjoin hrun, run_resolve_of_error hjoin hsame]
        exact ⟨hrequests, rfl⟩
      · rw [hrun] at hrequests hsame
        rw [run_resolve_of_ok hjoin hrun, run_resolve_of_ok hjoin hsame]
        exact ⟨hrequests, rfl⟩

end SchemaCheck.Resolver
