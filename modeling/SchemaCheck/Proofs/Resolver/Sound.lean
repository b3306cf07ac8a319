import SchemaCheck.Proofs.Resolver.Run
import SchemaCheck.Proofs.Url.Parser

/-!
Soundness of caches. A cache is sound if each entry is the result of resolving its key with a new
cache. Resolving keeps a cache sound, and its results are the same for every sound cache. Caches
have the texts of locators as keys, so that this is stated for regular locators, which are
determined by their texts.
-/

namespace SchemaCheck

namespace Cache

variable {key other : String} {j : Json} {entries : List (String × Json)}

theorem lookup?_cons_self (key : String) (j : Json) (entries : List (String × Json)) :
    lookup? key ((key, j) :: entries) = some j := by
  simp [lookup?]

theorem lookup?_cons_of_ne (h : key ≠ other) (j : Json) (entries : List (String × Json)) :
    lookup? other ((key, j) :: entries) = lookup? other entries := by
  simp [lookup?, h]

theorem lookup?_insert_self (key : String) (j : Json) (entries : List (String × Json)) :
    lookup? key (insert key j entries) = some j :=
  lookup?_cons_self ..

theorem lookup?_insert_of_ne (h : key ≠ other) (j : Json) (entries : List (String × Json)) :
    lookup? other (insert key j entries) = lookup? other entries := by
  rw [insert, lookup?_cons_of_ne h, lookup?, lookup?, List.find?_filter]
  congr 2
  funext entry
  by_cases heq : entry.1 = other
  · simp [heq, Ne.symm h]
  · simp [heq]

theorem ne_of_lookup? (hnone : lookup? key entries = none) (h : lookup? other entries = some j) :
    key ≠ other := by
  rintro rfl
  rw [hnone] at h
  cases h

/-- The entries of the cache agree with what resolving with a new cache returns. -/
structure Sound (r : Resolver) (root : Json) (c : Cache) : Prop where
  /-- The documents of the new cache are kept. -/
  seeded : ∀ key j, lookup? key (r.seed root).documents = some j →
    lookup? key c.documents = some j
  documents : ∀ u : Url, u.Regular → ∀ j, lookup? (documentKey u) c.documents = some j →
    ((r.document u).run (r.seed root)).1 = .ok j
  fragments : ∀ u : Url, u.Regular → ∀ j, lookup? u.write c.fragments = some j →
    ((r.resolveUrl u).run (r.seed root)).1 = .ok j

end Cache

namespace Resolver

variable {r : Resolver} {root : Json} {c : Cache} {u v : Url}

/-- The root is cached under the base. -/
theorem lookup?_seed_base (r : Resolver) (root : Json) :
    Cache.lookup? (documentKey r.base) (r.seed root).documents = some root :=
  Cache.lookup?_insert_self ..

theorem fragments_document (r : Resolver) (u : Url) (c : Cache) :
    ((r.document u).run c).2.fragments = c.fragments := by
  have hrun := r.documentRun u c
  generalize (r.document u).run c = q at hrun ⊢
  cases hrun <;> rfl

theorem documentKey_injective (hu : u.Regular) (hv : v.Regular)
    (h : documentKey u = documentKey v) : u.withoutFragment = v.withoutFragment :=
  Url.write_injective hu.withoutFragment hv.withoutFragment h

theorem sound_seed (r : Resolver) (root : Json) : (r.seed root).Sound r root where
  seeded _ _ := id
  documents u _ j h := by rw [run_document_of_known h]
  fragments u _ j h := nomatch h

/-- A key that is not in a sound cache is not in a new one. -/
theorem lookup?_seed_eq_none (hc : c.Sound r root) {key : String}
    (h : Cache.lookup? key c.documents = none) :
    Cache.lookup? key (r.seed root).documents = none := by
  cases hfind : Cache.lookup? key (r.seed root).documents with
  | none => rfl
  | some j =>
      rw [hc.seeded key j hfind] at h
      cases h

theorem sound_document (hc : c.Sound r root) (hu : u.Regular) :
    ((r.document u).run c).1 = ((r.document u).run (r.seed root)).1 ∧
      ((r.document u).run c).2.Sound r root := by
  have hrun := r.documentRun u c
  generalize (r.document u).run c = q at hrun ⊢
  cases hrun with
  | known hlookup =>
      rw [hc.documents u hu _ hlookup]
      exact ⟨rfl, hc⟩
  | failed hlookup hfetched =>
      rw [run_document_of_error (lookup?_seed_eq_none hc hlookup) hfetched]
      exact ⟨rfl, hc.seeded, hc.documents, hc.fragments⟩
  | @fetched j hlookup hfetched =>
      have hseed := lookup?_seed_eq_none hc hlookup
      rw [run_document_of_fetched hseed hfetched]
      refine ⟨rfl, fun key k hkey => ?_, fun v hv k hkey => ?_, hc.fragments⟩
      · -- The new entry hides none of the first ones.
        have hne : documentKey u ≠ key := Cache.ne_of_lookup? hseed hkey
        exact (Cache.lookup?_cons_of_ne hne j _).trans (hc.seeded key k hkey)
      · by_cases heq : documentKey u = documentKey v
        · -- The new entry, under the key of another spelling of its locator.
          rw [heq, Cache.lookup?_cons_self] at hkey
          cases hkey
          rw [documentKey_injective hu hv heq] at hfetched
          rw [run_document_of_fetched (heq ▸ hseed) hfetched]
        · rw [Cache.lookup?_cons_of_ne heq] at hkey
          exact hc.documents v hv k hkey

/-- Loading a document gives the same result with a sound cache and with a new one, and a new cache
has no pointers. -/
theorem sound_seed_document (hc : c.Sound r root) (hu : u.Regular) {c' : Cache}
    {result : Except SchemaError Json} (h : (r.document u).run c = (result, c')) :
    c'.Sound r root ∧ ∃ d, (r.document u).run (r.seed root) = (result, d) ∧
      Cache.lookup? u.write d.fragments = none := by
  obtain ⟨hsame, hsound⟩ := sound_document hc hu
  have hfragments := r.fragments_document u (r.seed root)
  rcases hseed : (r.document u).run (r.seed root) with ⟨result', d⟩
  rw [h, hseed] at hsame
  rw [h] at hsound
  rw [hseed] at hfragments
  cases hsame
  exact ⟨hsound, d, rfl, by rw [hfragments]; rfl⟩

theorem sound_resolveUrl (hc : c.Sound r root) (hu : u.Regular) :
    ((r.resolveUrl u).run c).1 = ((r.resolveUrl u).run (r.seed root)).1 ∧
      ((r.resolveUrl u).run c).2.Sound r root := by
  have hrun := r.resolveUrlRun u c
  generalize (r.resolveUrl u).run c = q at hrun ⊢
  cases hrun with
  | failed hfailed =>
      obtain ⟨hsound, d, hseed, -⟩ := sound_seed_document hc hu hfailed
      rw [run_resolveUrl_of_error hseed]
      exact ⟨rfl, hsound⟩
  | whole hj htokens =>
      obtain ⟨hsound, d, hseed, -⟩ := sound_seed_document hc hu hj
      rw [run_resolveUrl_of_whole hseed htokens]
      exact ⟨rfl, hsound⟩
  | known hj _ hknown =>
      obtain ⟨hsound, -⟩ := sound_seed_document hc hu hj
      rw [hsound.fragments u hu _ hknown]
      exact ⟨rfl, hsound⟩
  | missing hj htokens _ hwalk =>
      obtain ⟨hsound, d, hseed, hfresh⟩ := sound_seed_document hc hu hj
      rw [run_resolveUrl_of_missing hseed htokens hfresh hwalk]
      exact ⟨rfl, hsound⟩
  | found hj htokens _ hwalk =>
      obtain ⟨hsound, d, hseed, hfresh⟩ := sound_seed_document hc hu hj
      have hfound := run_resolveUrl_of_found hseed htokens hfresh hwalk
      rw [hfound]
      refine ⟨rfl, hsound.seeded, hsound.documents, fun v hv k hkey => ?_⟩
      by_cases heq : u.write = v.write
      -- The texts are equal and both locators are regular, so that the locators are equal.
      · rw [heq, Cache.lookup?_insert_self] at hkey
        cases hkey
        rw [← Url.write_injective hu hv heq, hfound]
      · rw [Cache.lookup?_insert_of_ne heq] at hkey
        exact hsound.fragments v hv k hkey

/-- The target of a reference does not depend on earlier calls. -/
theorem sound_resolve (hc : c.Sound r root) {scopes : ScopeStack}
    (hscope : scopes.current.Regular) (reference : String) :
    ((r.resolve reference scopes).run c).1 =
        ((r.resolve reference (.ofBase scopes.current)).run (r.seed root)).1 ∧
      ((r.resolve reference scopes).run c).2.Sound r root := by
  have hcurrent : scopes.current = (ScopeStack.ofBase scopes.current).current := rfl
  have hrun := r.resolveRun reference scopes c
  generalize (r.resolve reference scopes).run c = q at hrun ⊢
  cases hrun with
  | unread hjoin =>
      rw [hcurrent] at hjoin
      rw [run_resolve_of_join_error hjoin]
      exact ⟨rfl, hc⟩
  | @failed u _ _ hjoin hfailed =>
      obtain ⟨hsame, hsound⟩ := sound_resolveUrl hc (Url.join_regular hscope hjoin)
      rcases hseed : (r.resolveUrl u).run (r.seed root) with ⟨result, d⟩
      rw [hfailed, hseed] at hsame
      rw [hfailed] at hsound
      rw [hcurrent] at hjoin
      cases hsame
      rw [run_resolve_of_error hjoin hseed]
      exact ⟨rfl, hsound⟩
  | @resolved u _ _ hjoin hj =>
      obtain ⟨hsame, hsound⟩ := sound_resolveUrl hc (Url.join_regular hscope hjoin)
      rcases hseed : (r.resolveUrl u).run (r.seed root) with ⟨result, d⟩
      rw [hj, hseed] at hsame
      rw [hj] at hsound
      rw [hcurrent] at hjoin
      cases hsame
      rw [run_resolve_of_ok hjoin hseed]
      exact ⟨rfl, hsound⟩

variable {reference : String} {scopes : ScopeStack}

/-- The target of a reference is the target of its locator. -/
theorem resolveUrl_of_resolve {target : Target}
    (h : ((r.resolve reference scopes).run c).1 = .ok target) :
    scopes.current.join reference = .ok target.url ∧
      ((r.resolveUrl target.url).run c).1 = .ok target.schema := by
  have hrun := r.resolveRun reference scopes c
  generalize (r.resolve reference scopes).run c = q at hrun h
  cases hrun with
  | unread _ => cases h
  | failed _ _ => cases h
  | resolved hjoin hj =>
      cases h
      exact ⟨hjoin, by rw [hj]⟩

/-- The fetcher itself never fails with the error for reference cycles. -/
def Honest (r : Resolver) : Prop :=
  ∀ u e, r.fetcher u = .error e → ∀ reference, e ≠ .invalidReference reference "reference cycle"

theorem message_ne_cycle (e : Url.ParseError) : e.message ≠ "reference cycle" := by
  cases e <;> decide

theorem decode_ne_cycle {bytes : Utf8.Bytes} {e : SchemaError} (h : Document.decode u bytes = .error e)
    (text : String) : e ≠ .invalidReference text "reference cycle" := by
  unfold Document.decode Document.ofYaml Document.ofJson at h
  grind

theorem fetched_ne_cycle (hr : r.Honest) {e : SchemaError} (h : r.fetched u = .error e)
    (text : String) : e ≠ .invalidReference text "reference cycle" := by
  unfold fetched at h
  split at h
  next hfetch =>
    cases h
    exact hr u e hfetch text
  next =>
    split at h
    next hdecode =>
      cases h
      exact decode_ne_cycle hdecode text
    next => cases h

theorem document_ne_cycle (hr : r.Honest) {e : SchemaError}
    (h : ((r.document u).run c).1 = .error e) (text : String) :
    e ≠ .invalidReference text "reference cycle" := by
  have hrun := r.documentRun u c
  generalize (r.document u).run c = q at hrun h
  cases hrun with
  | known _ => cases h
  | fetched _ _ => cases h
  | failed _ hfetched =>
      cases h
      exact fetched_ne_cycle hr hfetched text

theorem resolveUrl_ne_cycle (hr : r.Honest) {e : SchemaError}
    (h : ((r.resolveUrl u).run c).1 = .error e) (text : String) :
    e ≠ .invalidReference text "reference cycle" := by
  have hrun := r.resolveUrlRun u c
  generalize (r.resolveUrl u).run c = q at hrun h
  cases hrun with
  | failed hfailed =>
      cases h
      exact document_ne_cycle hr (by rw [hfailed]) text
  | missing _ _ _ _ =>
      cases h
      rintro ⟨⟩
  | _ => cases h

/-- Resolving a reference never fails with the error for reference cycles. -/
theorem resolve_ne_cycle (hr : r.Honest) {e : SchemaError}
    (h : ((r.resolve reference scopes).run c).1 = .error e) (text : String) :
    e ≠ .invalidReference text "reference cycle" := by
  have hrun := r.resolveRun reference scopes c
  generalize (r.resolve reference scopes).run c = q at hrun h
  cases hrun with
  | @unread e' _ =>
      cases h
      exact fun heq => message_ne_cycle e' (SchemaError.invalidReference.inj heq).2
  | failed _ hfailed =>
      cases h
      exact resolveUrl_ne_cycle hr (by rw [hfailed]) text
  | resolved _ _ => cases h

end Resolver

end SchemaCheck
