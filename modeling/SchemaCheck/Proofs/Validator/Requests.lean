import SchemaCheck.Proofs.Resolver.History
import SchemaCheck.Proofs.Validator.Independence

/-!
The requests of a validator to its fetcher, from its construction on. References are looked up by
document: such a request is for a locator without a fragment, and never for a document that is
cached. The first request is for the given locator, including its fragment.
-/

namespace SchemaCheck

/-- The second cache extends the first one, and the requests made in between were for documents that
the first cache does not have. -/
structure Cache.Grows (c c' : Cache) : Prop where
  kept : c.Kept c'
  asked : ∃ later, c'.requests = later ++ c.requests ∧
    ∀ u ∈ later, u.fragment = none ∧ lookup? u.write c.documents = none

namespace Cache.Grows

variable {c d e : Cache}

theorem of_kept (hkept : c.Kept d) (hrequests : d.requests = c.requests) : c.Grows d :=
  ⟨hkept, [], hrequests, List.forall_mem_nil _⟩

theorem refl (c : Cache) : c.Grows c :=
  of_kept (.refl c) rfl

theorem trans (hcd : c.Grows d) (hde : d.Grows e) : c.Grows e := by
  obtain ⟨hkept, first, hfirst, hnew⟩ := hcd
  obtain ⟨hkept', second, hsecond, hnew'⟩ := hde
  refine ⟨hkept.trans hkept', second ++ first, by rw [hsecond, hfirst, List.append_assoc], ?_⟩
  refine List.forall_mem_append.mpr ⟨fun u hu => ?_, hnew⟩
  obtain ⟨hplain, hmissing⟩ := hnew' u hu
  refine ⟨hplain, ?_⟩
  -- A document that is missing later was missing from the start.
  cases hlookup : lookup? u.write c.documents with
  | none => rfl
  | some j => exact hmissing.symm.trans (hkept.documents _ j hlookup) |>.symm

end Cache.Grows

namespace Resolver

variable (r : Resolver) (c : Cache)

theorem grows_document (u : Url) : c.Grows ((r.document u).run c).2 := by
  obtain ⟨hkept, -⟩ := r.kept_document u c
  have hrun := r.documentRun u c
  generalize (r.document u).run c = q at hrun hkept ⊢
  have hrequest (hnew : Cache.lookup? (documentKey u) c.documents = none) :
      ∀ v ∈ [u.withoutFragment], v.fragment = none ∧ Cache.lookup? v.write c.documents = none :=
    List.forall_mem_singleton.mpr ⟨u.fragment_withoutFragment, hnew⟩
  cases hrun with
  | known _ => exact .refl c
  | fetched hnew _ => exact ⟨hkept, _, rfl, hrequest hnew⟩
  | failed hnew _ => exact ⟨hkept, _, rfl, hrequest hnew⟩

theorem grows_resolveUrl (u : Url) : c.Grows ((r.resolveUrl u).run c).2 := by
  have hgrows := r.grows_document c u
  have hrun := r.resolveUrlRun u c
  generalize (r.resolveUrl u).run c = q at hrun ⊢
  cases hrun with
  | failed hfailed => rwa [hfailed] at hgrows
  | whole hj _ => rwa [hj] at hgrows
  | known hj _ _ => rwa [hj] at hgrows
  | missing hj _ _ _ => rwa [hj] at hgrows
  | found hj _ hnew _ =>
      rw [hj] at hgrows
      exact hgrows.trans (.of_kept ⟨fun _ _ => id, fun _ _ => Cache.lookup?_insert_of_new hnew⟩ rfl)

theorem grows_resolve (reference : String) (scopes : ScopeStack) :
    c.Grows ((r.resolve reference scopes).run c).2 := by
  have hrun := r.resolveRun reference scopes c
  generalize (r.resolve reference scopes).run c = q at hrun ⊢
  cases hrun with
  | unread _ => exact .refl c
  | @failed u _ _ _ hresolve | @resolved u _ _ _ hresolve =>
      have hgrows := r.grows_resolveUrl c u
      rwa [hresolve] at hgrows

end Resolver

theorem Memory.learning_grows (r : Resolver) :
    Memory.Learning r fun m n => m.cache.Grows n.cache where
  refl m := .refl m.cache
  trans := .trans
  resolve reference scopes m := r.grows_resolve m.cache reference scopes
  regex _ _ m _ := .refl m.cache

/-- A reflexive and transitive relation that holds across each learning step relates the initial
memory to every memory of the validator, also with keywords of its own. -/
theorem Validator.Recalls.learnt_of_lawful {v : Validator} {m : Memory}
    {R : Memory → Memory → Prop} (h : v.Recalls m) (ht : v.setting.registry.Lawful)
    (hbase : v.setting.resolver.base.Regular) (hR : Memory.Learning v.setting.resolver R) :
    R v.memory m := by
  induction h with
  | first => exact hR.refl _
  | later _ instance_ config depth ih =>
      rename_i m _
      exact hR.trans ih (Setting.learnt_visit ht hR (s := v.start config m) depth (.ofBase hbase)
        (.root instance_) v.schema none)

namespace Options

/-- The requests that are made by building a validator from the document at a locator and by a
sequence of calls, in reverse order. -/
def asked (o : Options) (uri : String) (history : List Validator.Call) : List Url :=
  match (o.load uri).run ⟨[], [], []⟩ with
  | (.ok v, c) => (v.after history).cache.requests ++ c.requests
  | (.error _, c) => c.requests

variable {o : Options} {uri : String} {base : Url}

/-- Building a validator makes one request, which is for the given locator. -/
theorem run_load (hparse : Url.parse uri = .ok base) (c : Cache) :
    (o.load uri).run c = (((o.resolver base).fetched base).map (o.assemble · base),
      { c with requests := base :: c.requests }) := by
  have hload := (o.resolver base).run_load base c
  unfold load
  rw [hparse]
  dsimp only
  cases hfetched : (o.resolver base).fetched base with
  | error e =>
      rw [hfetched] at hload
      exact Resolving.run_bind_of_error hload
  | ok schema =>
      rw [hfetched] at hload
      exact Resolving.run_bind_of_ok hload

theorem lawful_assemble (hvocabulary : ∀ registry, o.registry = some registry → registry.Lawful)
    (schema : Json) : (o.assemble schema base).setting.registry.Lawful := by
  show (o.registry.getD (.ofDraft o.draft)).Lawful
  cases hregistry : o.registry with
  | none => exact (Registry.preset_ofDraft o.draft).lawful
  | some registry => exact hvocabulary registry hregistry

/-- Calls request locators without a fragment, and never the document that the validator was built
from. -/
theorem asked_of_calls (hvocabulary : ∀ registry, o.registry = some registry → registry.Lawful)
    (hbase : base.Regular) (schema : Json) (history : List Validator.Call) :
    ∀ u ∈ ((o.assemble schema base).after history).cache.requests,
      u.fragment = none ∧ u.write ≠ documentKey base := by
  have hgrows := ((o.assemble schema base).recalls_after history).learnt_of_lawful
    (lawful_assemble hvocabulary schema) hbase (Memory.learning_grows _)
  obtain ⟨later, hlater, hnew⟩ := hgrows.asked
  rw [show (o.assemble schema base).memory.cache.requests = [] from rfl, List.append_nil] at hlater
  intro u hu
  obtain ⟨hplain, hmissing⟩ := hnew u (hlater ▸ hu)
  refine ⟨hplain, fun heq => ?_⟩
  have hseeded : Cache.lookup? (documentKey base) (o.assemble schema base).memory.cache.documents =
      some schema := Cache.lookup?_insert_self ..
  rw [heq, hseeded] at hmissing
  cases hmissing

/-- The first request is for the locator that the validator is built from. All others are for other
documents and have no fragment, so that no request has a fragment iff the given locator has none. -/
theorem asks_for_documents (o : Options)
    (hvocabulary : ∀ registry, o.registry = some registry → registry.Lawful) (uri : String)
    (base : Url) (hparse : Url.parse uri = .ok base) (history : List Validator.Call) :
    (∃ later, o.asked uri history = later ++ [base] ∧
      ∀ u ∈ later, u.fragment = none ∧ u.write ≠ documentKey base) ∧
      ((∀ u ∈ o.asked uri history, u.fragment = none) ↔ base.fragment = none) := by
  have hasked : ∃ later, o.asked uri history = later ++ [base] ∧
      ∀ u ∈ later, u.fragment = none ∧ u.write ≠ documentKey base := by
    unfold asked
    rw [run_load hparse]
    cases (o.resolver base).fetched base with
    | error e => exact ⟨[], rfl, List.forall_mem_nil _⟩
    | ok schema =>
        exact ⟨_, rfl, asked_of_calls hvocabulary (Url.parse_regular hparse) schema history⟩
  refine ⟨hasked, ?_⟩
  obtain ⟨later, heq, hlater⟩ := hasked
  rw [heq, List.forall_mem_append, List.forall_mem_singleton]
  exact and_iff_right fun u hu => (hlater u hu).1

/-- A document with a reference to another one, which is requested once in two calls. -/
theorem asks_for_documents_plain :
    let base : Url := ⟨"memory", some ⟨"", "", none⟩, .rooted ["root.json"], none, none⟩
    let other : Url := { base with path := .rooted ["other.json"] }
    let served : List (Url × String) :=
      [(base, "\x7b\"$ref\":\"other.json#/a\"\x7d"), (other, "\x7b\"a\":\x7b\x7d\x7d")]
    let fetcher : Fetcher := fun u =>
      match served.find? (·.1 = u) with
      | some (_, text) => .ok (Utf8.encodeChars text.toList)
      | none => .error (.fetch u.write "offline")
    let o : Options := { standard fetcher with depth := 9 }
    let call : Validator.Call := ⟨.isValid, .null, .permissive⟩
    let asked := o.asked "memory:///root.json" [call, call]
    asked = [other, base] ∧ ∀ u ∈ asked, u.fragment = none := by
  intro base other served fetcher o call asked
  have hparse : Url.parse "memory:///root.json" = .ok base := by decide +kernel
  obtain ⟨-, hplain⟩ := o.asks_for_documents (fun _ h => nomatch h) _ base hparse [call, call]
  exact ⟨by decide +kernel, hplain.mpr rfl⟩

/-- A validator that is built from a locator with a fragment requests that locator. -/
theorem asks_for_fragment :
    let base : Url :=
      ⟨"memory", some ⟨"", "", none⟩, .rooted ["root.json"], none, some "/definitions/a"⟩
    let fetcher : Fetcher := fun _ => .ok (Utf8.encodeChars "\x7b\x7d".toList)
    let o : Options := standard fetcher
    ((o.load "memory:///root.json#/definitions/a").run ⟨[], [], []⟩).1.isOk ∧
      o.asked "memory:///root.json#/definitions/a" [] = [base] ∧
      ¬ ∀ u ∈ o.asked "memory:///root.json#/definitions/a" [], u.fragment = none := by
  intro base fetcher o
  have hasked : o.asked "memory:///root.json#/definitions/a" [] = [base] := by decide +kernel
  refine ⟨by decide +kernel, hasked, fun hplain => ?_⟩
  rw [hasked] at hplain
  exact nomatch hplain base (List.mem_singleton_self _)

end Options

end SchemaCheck
