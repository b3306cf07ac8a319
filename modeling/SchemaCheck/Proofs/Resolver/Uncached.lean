import SchemaCheck.Proofs.Json.Part
import SchemaCheck.Proofs.Resolver.Sound
import SchemaCheck.Proofs.Url.Bare

/-!
Resolving without a cache. The document at a locator is the root, if it has the locator as a key,
and what the fetcher returns otherwise. The target of a locator is what its fragment points at in
the document. Resolving with a new cache has just this result, and so has resolving with any sound
cache.
-/

namespace SchemaCheck.Resolver

/-- The keys of the root: the base and, if ids are kept, the base joined with the `id` of the
root. -/
inductive RootKey (r : Resolver) (root : Json) : String → Prop
  | base : RootKey r root (documentKey r.base)
  | id {text : String} {u : Url} :
      r.keepsIds = true → root.get? "id" = some (.string text) → r.base.join text = .ok u →
      RootKey r root (documentKey u)

variable {r : Resolver} {root : Json} {c : Cache} {u : Url} {j : Json}

/-- A new cache has no documents but the root. -/
theorem root_of_mem_seed {entry : String × Json} (h : entry ∈ (r.seed root).documents) :
    entry.2 = root ∧ r.RootKey root entry.1 := by
  rcases Cache.mem_insert h with rfl | h
  · exact ⟨rfl, .base⟩
  · split at h
    next text hkeeps hid =>
      obtain ⟨value, hvalue, htext⟩ := Option.bind_eq_some_iff.mp hid
      cases value <;> cases htext
      split at h
      next u hjoin =>
        rcases Cache.mem_insert h with rfl | h
        · exact ⟨rfl, .id hkeeps hvalue hjoin⟩
        · cases h
      next => cases h
    next => cases h

/-- The document at a locator: the root under its own keys, and what the fetcher returns
otherwise. -/
def documentAt (r : Resolver) (root : Json) (u : Url) : Except SchemaError Json :=
  match Cache.lookup? (documentKey u) (r.seed root).documents with
  | some j => .ok j
  | none => r.fetched u.withoutFragment

/-- The target of the fragment of a locator in a document. -/
def pointed (u : Url) (j : Json) : Except SchemaError Json :=
  match fragmentTokens? (decodedFragment u) with
  | none => .ok j
  | some tokens =>
    match Json.Pointer.walk? tokens j with
    | some target => .ok target
    | none => .error (.unresolvableFragment (documentKey u) (decodedFragment u))

def targetAt (r : Resolver) (root : Json) (u : Url) : Except SchemaError Json :=
  r.documentAt root u >>= pointed u

theorem targetAt_of_document (h : r.documentAt root u = .ok j) :
    r.targetAt root u = pointed u j := by
  rw [targetAt, h]
  rfl

theorem targetAt_of_error {e : SchemaError} (h : r.documentAt root u = .error e) :
    r.targetAt root u = .error e := by
  rw [targetAt, h]
  rfl

theorem tokens_ne_nil (s : List Char) : Json.Pointer.tokens s ≠ [] := by
  cases s with
  | nil => exact nofun
  | cons c rest =>
      rw [Json.Pointer.tokens]
      split
      · exact nofun
      · split <;> exact nofun

theorem fragmentTokens?_ne_nil (fragment : String) : fragmentTokens? fragment ≠ some [] := by
  unfold fragmentTokens?
  split
  · exact nofun
  · exact fun h => tokens_ne_nil _ (Option.some.inj h)

/-- The target of a fragment is the whole document or lies below its top level. -/
theorem pointed_cases {target : Json} (h : pointed u j = .ok target) :
    (fragmentTokens? (decodedFragment u) = none ∧ target = j) ∨
      ∃ token rest, fragmentTokens? (decodedFragment u) = some (token :: rest) ∧
        Json.Pointer.walk? (token :: rest) j = some target := by
  unfold pointed at h
  split at h
  next hnone =>
    cases h
    exact .inl ⟨hnone, rfl⟩
  next tokens hsome =>
    split at h
    next hwalk =>
      cases h
      cases tokens with
      | nil => exact absurd hsome (fragmentTokens?_ne_nil _)
      | cons token rest => exact .inr ⟨token, rest, hsome, hwalk⟩
    next => cases h

/-- The target of a locator is part of the document at the locator. -/
theorem part_of_targetAt {target : Json} (h : r.targetAt root u = .ok target) :
    ∃ document, r.documentAt root u = .ok document ∧ Json.PartOf target document := by
  cases hdocument : r.documentAt root u with
  | error e =>
      rw [targetAt_of_error hdocument] at h
      cases h
  | ok document =>
      rw [targetAt_of_document hdocument] at h
      refine ⟨document, rfl, ?_⟩
      rcases pointed_cases h with ⟨-, rfl⟩ | ⟨token, rest, -, hwalk⟩
      · exact .whole
      · exact Json.Pointer.part_of_walk? hwalk

theorem documentAt_base (r : Resolver) (root : Json) : r.documentAt root r.base = .ok root := by
  rw [documentAt, lookup?_seed_base]

/-- The document at a locator does not depend on the fragment. -/
theorem documentAt_bare (r : Resolver) (root : Json) (u : Url) :
    r.documentAt root u.bare = r.documentAt root u := by
  unfold documentAt documentKey
  rw [Url.withoutFragment_bare]

theorem run_document_seed (r : Resolver) (root : Json) (u : Url) :
    ((r.document u).run (r.seed root)).1 = r.documentAt root u := by
  have hrun := r.documentRun u (r.seed root)
  unfold documentAt
  generalize (r.document u).run (r.seed root) = q at hrun ⊢
  cases hrun with
  | known hlookup => rw [hlookup]
  | fetched hlookup hfetched => rw [hlookup, hfetched]
  | failed hlookup hfetched => rw [hlookup, hfetched]

theorem run_resolveUrl_seed (r : Resolver) (root : Json) (u : Url) :
    ((r.resolveUrl u).run (r.seed root)).1 = r.targetAt root u := by
  have hdocument := r.run_document_seed root u
  have hfragments := r.fragments_document u (r.seed root)
  have hrun := r.resolveUrlRun u (r.seed root)
  generalize (r.resolveUrl u).run (r.seed root) = q at hrun ⊢
  cases hrun with
  | failed hfailed =>
      rw [hfailed] at hdocument
      rw [targetAt_of_error hdocument.symm]
  | whole hj htokens =>
      rw [hj] at hdocument
      rw [targetAt_of_document hdocument.symm, pointed, htokens]
  | known hj _ hknown =>
      -- A new cache has no targets, and loading the document adds none.
      rw [hj] at hfragments
      rw [show _ = (r.seed root).fragments from hfragments] at hknown
      cases hknown
  | found hj htokens _ hwalk =>
      rw [hj] at hdocument
      rw [targetAt_of_document hdocument.symm, pointed, htokens]
      dsimp only
      rw [hwalk]
  | missing hj htokens _ hwalk =>
      rw [hj] at hdocument
      rw [targetAt_of_document hdocument.symm, pointed, htokens]
      dsimp only
      rw [hwalk]

theorem run_document_of_sound (hc : c.Sound r root) (hu : u.Regular) :
    ((r.document u).run c).1 = r.documentAt root u := by
  rw [(sound_document hc hu).1, run_document_seed]

theorem run_resolveUrl_of_sound (hc : c.Sound r root) (hu : u.Regular) :
    ((r.resolveUrl u).run c).1 = r.targetAt root u := by
  rw [(sound_resolveUrl hc hu).1, run_resolveUrl_seed]

end SchemaCheck.Resolver
