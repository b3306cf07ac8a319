import Mathlib.Data.List.Induction
import Mathlib.Data.List.Nodup
import SchemaCheck.Proofs.Resolver.Uncached

/-!
A resolver over a sequence of calls. After any calls the cache contains only what the root and the
fetcher supply; entries are kept and not requested again, so that each answer is that of a resolver
without a cache. A failing call leaves the cache unchanged, or adds only the documents it has
loaded.
-/

namespace SchemaCheck

namespace Cache

variable {key other : String} {j k : Json} {entries : List (String × Json)}

theorem lookup?_cons_of_new (hnew : lookup? key entries = none)
    (h : lookup? other entries = some k) : lookup? other ((key, j) :: entries) = some k := by
  rw [lookup?_cons_of_ne (ne_of_lookup? hnew h), h]

theorem lookup?_insert_of_new (hnew : lookup? key entries = none)
    (h : lookup? other entries = some k) : lookup? other (insert key j entries) = some k := by
  rw [lookup?_insert_of_ne (ne_of_lookup? hnew h), h]

/-- Every entry of the first cache is an entry of the second one. -/
structure Kept (c c' : Cache) : Prop where
  documents : ∀ key j, lookup? key c.documents = some j → lookup? key c'.documents = some j
  fragments : ∀ key j, lookup? key c.fragments = some j → lookup? key c'.fragments = some j

theorem Kept.refl (c : Cache) : c.Kept c :=
  ⟨fun _ _ => id, fun _ _ => id⟩

theorem Kept.trans {c d e : Cache} (hcd : c.Kept d) (hde : d.Kept e) : c.Kept e where
  documents key j h := hde.documents key j (hcd.documents key j h)
  fragments key j h := hde.fragments key j (hcd.fragments key j h)

end Cache

namespace Resolver

/-- The key is the text of a regular locator, and the pointer in it leads to the target, in the
document that is cached for it. -/
def Points (documents : List (String × Json)) (key : String) (target : Json) : Prop :=
  ∃ u : Url, u.Regular ∧ u.write = key ∧
    ∃ tokens j, fragmentTokens? (decodedFragment u) = some tokens ∧
      Cache.lookup? (documentKey u) documents = some j ∧ Json.Pointer.walk? tokens j = some target

/-- The keys of the successful requests. -/
def answered (r : Resolver) (requests : List Url) : List String :=
  (requests.filter fun u => (r.fetched u).isOk).map Url.write

/-- The entries of a cache come from the root and the fetcher, and no document was fetched twice. -/
structure Grounded (r : Resolver) (root : Json) (c : Cache) : Prop where
  documents : ∀ entry ∈ c.documents,
    (entry.2 = root ∧ r.RootKey root entry.1) ∨
      ∃ u : Url, u.Regular ∧ u.fragment = none ∧ u.write = entry.1 ∧ r.fetched u = .ok entry.2
  fragments : ∀ entry ∈ c.fragments, Points c.documents entry.1 entry.2
  held : ∀ key ∈ r.answered c.requests, ∃ j, Cache.lookup? key c.documents = some j
  once : (r.answered c.requests).Nodup

variable {r : Resolver} {root : Json} {c c' : Cache} {u : Url} {j : Json}

theorem Points.of_kept (hkept : c.Kept c') {key : String} {target : Json}
    (h : Points c.documents key target) : Points c'.documents key target := by
  obtain ⟨u, hu, hwrite, tokens, j, htokens, hlookup, hwalk⟩ := h
  exact ⟨u, hu, hwrite, tokens, j, htokens, hkept.documents _ _ hlookup, hwalk⟩

theorem answered_cons_of_ok (h : r.fetched u = .ok j) (requests : List Url) :
    r.answered (u :: requests) = u.write :: r.answered requests := by
  simp [answered, h, Except.isOk, Except.toBool]

theorem answered_cons_of_error {e : SchemaError} (h : r.fetched u = .error e)
    (requests : List Url) : r.answered (u :: requests) = r.answered requests := by
  simp [answered, h, Except.isOk, Except.toBool]

theorem grounded_seed (r : Resolver) (root : Json) : r.Grounded root (r.seed root) where
  documents _ hentry := .inl (root_of_mem_seed hentry)
  fragments _ hentry := nomatch hentry
  held _ hkey := nomatch hkey
  once := .nil

/-- Loading a document keeps all entries, and the document is cached afterwards. -/
theorem kept_document (r : Resolver) (u : Url) (c : Cache) :
    c.Kept ((r.document u).run c).2 ∧
      ∀ j, ((r.document u).run c).1 = .ok j →
        Cache.lookup? (documentKey u) ((r.document u).run c).2.documents = some j := by
  have hrun := r.documentRun u c
  generalize (r.document u).run c = q at hrun ⊢
  cases hrun with
  | known hlookup =>
      refine ⟨.refl c, ?_⟩
      rintro _ ⟨⟩
      exact hlookup
  | fetched hlookup _ =>
      refine ⟨⟨fun _ _ => Cache.lookup?_cons_of_new hlookup, fun _ _ => id⟩, ?_⟩
      rintro _ ⟨⟩
      exact Cache.lookup?_cons_self ..
  | failed _ _ => exact ⟨⟨fun _ _ => id, fun _ _ => id⟩, by rintro _ ⟨⟩⟩

theorem kept_resolveUrl (r : Resolver) (u : Url) (c : Cache) :
    c.Kept ((r.resolveUrl u).run c).2 := by
  obtain ⟨hkept, -⟩ := r.kept_document u c
  have hrun := r.resolveUrlRun u c
  generalize (r.resolveUrl u).run c = q at hrun ⊢
  cases hrun with
  | failed hfailed => rwa [hfailed] at hkept
  | whole hj _ => rwa [hj] at hkept
  | known hj _ _ => rwa [hj] at hkept
  | missing hj _ _ _ => rwa [hj] at hkept
  | found hj _ hnew _ =>
      rw [hj] at hkept
      exact hkept.trans ⟨fun _ _ => id, fun _ _ => Cache.lookup?_insert_of_new hnew⟩

theorem grounded_document (hc : r.Grounded root c) (hu : u.Regular) :
    r.Grounded root ((r.document u).run c).2 := by
  obtain ⟨hkept, -⟩ := r.kept_document u c
  have hrun := r.documentRun u c
  generalize (r.document u).run c = q at hrun hkept ⊢
  cases hrun with
  | known _ => exact hc
  | failed _ hfetched =>
      have hsame := answered_cons_of_error hfetched c.requests
      exact ⟨hc.documents, hc.fragments, hsame ▸ hc.held, hsame ▸ hc.once⟩
  | @fetched j hlookup hfetched =>
      have hmore := answered_cons_of_ok hfetched c.requests
      have hheld (key : String) (hkey : key ∈ r.answered c.requests) :
          ∃ k, Cache.lookup? key ((documentKey u, j) :: c.documents) = some k := by
        obtain ⟨k, hk⟩ := hc.held key hkey
        exact ⟨k, hkept.documents key k hk⟩
      -- The answer to an earlier request would have been cached, but nothing is found now.
      have hnew : u.withoutFragment.write ∉ r.answered c.requests := by
        intro hmem
        obtain ⟨k, hk⟩ := hc.held _ hmem
        rw [show u.withoutFragment.write = documentKey u from rfl, hlookup] at hk
        cases hk
      refine ⟨List.forall_mem_cons.mpr ⟨.inr ?_, hc.documents⟩,
        fun entry hentry => (hc.fragments entry hentry).of_kept hkept, ?_, ?_⟩
      · exact ⟨_, hu.withoutFragment, u.fragment_withoutFragment, rfl, hfetched⟩
      · rw [hmore]
        exact List.forall_mem_cons.mpr ⟨⟨j, Cache.lookup?_cons_self ..⟩, hheld⟩
      · rw [hmore]
        exact List.nodup_cons.mpr ⟨hnew, hc.once⟩

theorem grounded_resolveUrl (hc : r.Grounded root c) (hu : u.Regular) :
    r.Grounded root ((r.resolveUrl u).run c).2 := by
  have hgrounded := grounded_document hc hu
  obtain ⟨-, hheld⟩ := r.kept_document u c
  have hrun := r.resolveUrlRun u c
  generalize (r.resolveUrl u).run c = q at hrun ⊢
  cases hrun with
  | failed hfailed => rwa [hfailed] at hgrounded
  | whole hj _ => rwa [hj] at hgrounded
  | known hj _ _ => rwa [hj] at hgrounded
  | missing hj _ _ _ => rwa [hj] at hgrounded
  | @found j target c' tokens hj htokens _ hwalk =>
      rw [hj] at hgrounded hheld
      refine ⟨hgrounded.documents, fun entry hentry => ?_, hgrounded.held, hgrounded.once⟩
      rcases Cache.mem_insert hentry with rfl | hentry
      · exact ⟨u, hu, rfl, tokens, j, htokens, hheld j rfl, hwalk⟩
      · exact hgrounded.fragments entry hentry

/-- The calls of a resolver: a locator to look up, or a reference to resolve. -/
inductive Call where
  | locator (u : Url)
  | reference (text : String) (scopes : ScopeStack)

namespace Call

def locate : Call → Except SchemaError Url
  | locator u => .ok u
  | reference text scopes =>
    match scopes.current.join text with
    | .ok u => .ok u
    | .error e => .error (.invalidReference text e.message)

def run (r : Resolver) : Call → Resolving Target
  | locator u => do
    let schema ← r.resolveUrl u
    return ⟨u, schema⟩
  | reference text scopes => r.resolve text scopes

/-- The answer of a resolver without a cache. -/
def uncached (r : Resolver) (root : Json) (call : Call) : Except SchemaError Target := do
  let u ← call.locate
  let schema ← r.targetAt root u
  return ⟨u, schema⟩

/-- The locators of a call are regular, as all parsed ones are. -/
def Regular : Call → Prop
  | locator u => u.Regular
  | reference _ scopes => scopes.current.Regular

variable {call : Call} {e : SchemaError}

theorem Regular.locate (hcall : call.Regular) (h : call.locate = .ok u) : u.Regular := by
  cases call with
  | locator v =>
      cases h
      exact hcall
  | reference text scopes =>
      cases hjoin : scopes.current.join text with
      | error e => simp [Call.locate, hjoin] at h
      | ok v =>
          obtain rfl : v = u := by simpa [Call.locate, hjoin] using h
          exact Url.join_regular hcall hjoin

theorem run_of_unread (h : call.locate = .error e) : (call.run r).run c = (.error e, c) := by
  cases call with
  | locator u => cases h
  | reference text scopes =>
      cases hjoin : scopes.current.join text with
      | ok u => simp [locate, hjoin] at h
      | error failure =>
          obtain rfl : SchemaError.invalidReference text failure.message = e := by
            simpa [locate, hjoin] using h
          exact run_resolve_of_join_error hjoin

theorem run_of_located (h : call.locate = .ok u) :
    (call.run r).run c =
      (((r.resolveUrl u).run c).1.map (⟨u, ·⟩), ((r.resolveUrl u).run c).2) := by
  cases call with
  | locator v =>
      cases h
      rcases hresolve : (r.resolveUrl u).run c with ⟨e | j, c'⟩
      · exact Resolving.run_bind_of_error hresolve
      · exact Resolving.run_bind_of_ok hresolve
  | reference text scopes =>
      cases hjoin : scopes.current.join text with
      | error e => simp [locate, hjoin] at h
      | ok v =>
          obtain rfl : v = u := by simpa [locate, hjoin] using h
          rcases hresolve : (r.resolveUrl v).run c with ⟨e | j, c'⟩
          · exact run_resolve_of_error hjoin hresolve
          · exact run_resolve_of_ok hjoin hresolve

theorem uncached_of_unread (h : call.locate = .error e) : call.uncached r root = .error e := by
  rw [uncached, h]
  rfl

theorem uncached_of_located (h : call.locate = .ok u) :
    call.uncached r root = (r.targetAt root u).map (⟨u, ·⟩) := by
  rw [uncached, h]
  cases htarget : r.targetAt root u <;> simp [bind, Except.bind, htarget] <;> rfl

theorem kept_run (r : Resolver) (call : Call) (c : Cache) :
    c.Kept ((call.run r).run c).2 := by
  cases hlocate : call.locate with
  | error e =>
      rw [run_of_unread hlocate]
      exact .refl c
  | ok u =>
      rw [run_of_located hlocate]
      exact r.kept_resolveUrl u c

theorem grounded_run (hc : r.Grounded root c) (hcall : call.Regular) :
    r.Grounded root ((call.run r).run c).2 := by
  cases hlocate : call.locate with
  | error e =>
      rw [run_of_unread hlocate]
      exact hc
  | ok u =>
      rw [run_of_located hlocate]
      exact grounded_resolveUrl hc (hcall.locate hlocate)

theorem sound_run (hc : c.Sound r root) (hcall : call.Regular) :
    ((call.run r).run c).1 = call.uncached r root ∧ ((call.run r).run c).2.Sound r root := by
  cases hlocate : call.locate with
  | error e =>
      rw [run_of_unread hlocate, uncached_of_unread hlocate]
      exact ⟨rfl, hc⟩
  | ok u =>
      have hu : u.Regular := hcall.locate hlocate
      rw [run_of_located hlocate, uncached_of_located hlocate, run_resolveUrl_of_sound hc hu]
      exact ⟨rfl, (sound_resolveUrl hc hu).2⟩

end Call

/-- The cache of a new resolver after a sequence of calls. -/
def after (r : Resolver) (root : Json) (history : List Call) : Cache :=
  history.foldl (fun c call => ((call.run r).run c).2) (r.seed root)

theorem after_append (r : Resolver) (root : Json) (history : List Call) (call : Call) :
    r.after root (history ++ [call]) = ((call.run r).run (r.after root history)).2 := by
  simp [after]

theorem grounded_after (r : Resolver) (root : Json) {history : List Call}
    (h : ∀ call ∈ history, call.Regular) :
    r.Grounded root (r.after root history) ∧ (r.after root history).Sound r root := by
  induction history using List.reverseRecOn with
  | nil => exact ⟨grounded_seed r root, sound_seed r root⟩
  | append_singleton rest call ih =>
      obtain ⟨hgrounded, hsound⟩ := ih fun other hother => h other (List.mem_append_left _ hother)
      have hcall := h call (by simp)
      rw [after_append]
      exact ⟨Call.grounded_run hgrounded hcall, (Call.sound_run hsound hcall).2⟩

theorem kept_after (r : Resolver) (root : Json) (history later : List Call) :
    (r.after root history).Kept (r.after root (history ++ later)) := by
  induction later using List.reverseRecOn with
  | nil => simpa using Cache.Kept.refl _
  | append_singleton rest call ih =>
      rw [← List.append_assoc, after_append]
      exact ih.trans (Call.kept_run r call _)

/-- If the document cannot be loaded, the call leaves the cache unchanged. -/
theorem run_resolveUrl_of_document_error {e : SchemaError} (hc : c.Sound r root) (hu : u.Regular)
    (h : r.documentAt root u = .error e) :
    ((r.resolveUrl u).run c).2.documents = c.documents ∧
      ((r.resolveUrl u).run c).2.fragments = c.fragments := by
  have hdocument := run_document_of_sound hc hu
  have hrun := r.documentRun u c
  rcases hq : (r.document u).run c with ⟨result, c'⟩
  rw [hq] at hrun hdocument
  rw [h] at hdocument
  cases hrun with
  | failed _ _ =>
      rw [run_resolveUrl_of_error hq]
      exact ⟨rfl, rfl⟩
  | known _ => cases hdocument
  | fetched _ _ => cases hdocument

/-- If the pointer leads nowhere, the call only adds the document to the cache. -/
theorem run_resolveUrl_of_pointed_error {e : SchemaError} (hc : c.Sound r root) (hu : u.Regular)
    (hj : r.documentAt root u = .ok j) (h : pointed u j = .error e) :
    ((r.resolveUrl u).run c).2.fragments = c.fragments ∧
      (((r.resolveUrl u).run c).2.documents = c.documents ∨
        ((r.resolveUrl u).run c).2.documents = (documentKey u, j) :: c.documents) := by
  have hresult := run_resolveUrl_of_sound hc hu
  rw [targetAt_of_document hj, h] at hresult
  have hfragments := r.fragments_document u c
  have hdocument := run_document_of_sound hc hu
  have hdocuments := r.documentRun u c
  -- The cache is the one after loading the document.
  have hlast : ((r.resolveUrl u).run c).2 = ((r.document u).run c).2 := by
    have hrun := r.resolveUrlRun u c
    generalize (r.resolveUrl u).run c = q at hrun hresult ⊢
    cases hrun with
    | failed hfailed => rw [hfailed]
    | missing hj _ _ _ => rw [hj]
    | whole _ _ => cases hresult
    | known _ _ _ => cases hresult
    | found _ _ _ _ => cases hresult
  rw [hlast]
  refine ⟨hfragments, ?_⟩
  generalize (r.document u).run c = q at hdocuments hdocument ⊢
  cases hdocuments with
  | known _ => exact .inl rfl
  | failed _ _ => exact .inl rfl
  | fetched _ _ =>
      rw [hj] at hdocument
      cases hdocument
      exact .inr rfl

/-- The cache of a resolver refines a resolver without one. After any calls, each cached document is
the root, under one of the keys of the root, or what the fetcher returns for its key; each cached
target is what the pointer in its key leads to, in the document cached for that key; and no document
was fetched twice. Later calls keep all entries. Each answer is that of a resolver without a cache.
A call that fails before its document is loaded leaves the cache unchanged, and one that fails in
the document only adds the document. -/
theorem refines_uncached (r : Resolver) (root : Json) (history : List Call)
    (hregular : ∀ call ∈ history, call.Regular) :
    let c := r.after root history
    r.Grounded root c ∧ (∀ later, c.Kept (r.after root (history ++ later))) ∧
      ∀ call : Call, call.Regular →
        let q := (call.run r).run c
        q.1 = call.uncached r root ∧ (∀ e, call.locate = .error e → q.2 = c) ∧
          ∀ u, call.locate = .ok u →
            (∀ e, r.documentAt root u = .error e →
              q.2.documents = c.documents ∧ q.2.fragments = c.fragments) ∧
            ∀ j e, r.documentAt root u = .ok j → pointed u j = .error e →
              q.2.fragments = c.fragments ∧
                (q.2.documents = c.documents ∨
                  q.2.documents = (documentKey u, j) :: c.documents) := by
  intro c
  obtain ⟨hgrounded, hsound⟩ := grounded_after r root hregular
  refine ⟨hgrounded, r.kept_after root history, fun call hcall => ?_⟩
  intro q
  refine ⟨(Call.sound_run hsound hcall).1, fun e hunread => ?_, fun u hlocate => ?_⟩
  · exact congrArg Prod.snd (Call.run_of_unread hunread)
  · have hu : u.Regular := hcall.locate hlocate
    have hq : q.2 = ((r.resolveUrl u).run c).2 := congrArg Prod.snd (Call.run_of_located hlocate)
    rw [hq]
    exact ⟨fun e => run_resolveUrl_of_document_error hsound hu,
      fun j e => run_resolveUrl_of_pointed_error hsound hu⟩

/-- A pointer that leads nowhere, two spellings of one target, and a document that is missing. The
document is requested once, and its `id` is removed before anything is looked up in it. -/
theorem refines_uncached_spellings :
    let base : Url := ⟨"memory", some ⟨"", "", none⟩, .rooted ["schema.json"], none, none⟩
    let served : Url := { base with path := .rooted ["defs.json"] }
    let r : Resolver :=
      { base
        keepsIds := false
        fetcher := fun u =>
          if u = served then .ok (Utf8.encodeChars "\x7b\"id\":\"b\",\"n\":\"x\"\x7d".toList)
          else .error (.fetch u.write "offline") }
    let refer (text : String) : Call := .reference text r.scopes
    let history := [refer "defs.json#/n", refer "defs.json#/id", refer "gone.json"]
    let c := r.after .null history
    let again := refer "defs.json#/%6e"
    (∀ call ∈ history, call.Regular) ∧
      c.requests.map Url.write = ["memory:///gone.json", "memory:///defs.json"] ∧
      r.answered c.requests = ["memory:///defs.json"] ∧
      (again.uncached r .null).map (·.schema.string?) = .ok (some "x") ∧
      ((refer "defs.json#/id").uncached r .null).map (·.schema.string?) =
        .error (.unresolvableFragment "memory:///defs.json" "/id") ∧
      r.Grounded .null c ∧ ((again.run r).run c).1 = again.uncached r .null := by
  intro base served r refer history c again
  have hparse : Url.parse "memory:///schema.json" = .ok base := by decide +kernel
  have hbase : r.scopes.current.Regular := Url.parse_regular hparse
  have hregular : ∀ call ∈ history, call.Regular := by
    simp only [history, List.forall_mem_cons]
    exact ⟨hbase, hbase, hbase, by simp⟩
  obtain ⟨hgrounded, -, hcalls⟩ := r.refines_uncached .null history hregular
  obtain ⟨hanswer, -⟩ := hcalls again hbase
  exact ⟨hregular, by decide +kernel, by decide +kernel, by decide +kernel, by decide +kernel,
    hgrounded, hanswer⟩

end Resolver

end SchemaCheck
