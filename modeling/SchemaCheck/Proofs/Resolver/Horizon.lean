import SchemaCheck.Proofs.Keyword.Rank
import SchemaCheck.Proofs.Resolver.Run
import SchemaCheck.Proofs.Url.Parser
import SchemaCheck.Proofs.Visit.Effect

/-!
Bounds on what references can lead to. If the fetcher succeeds at finitely many locators only, a
walk meets finitely many documents. It applies only parts of them and the schemas that `disallow`
builds around such parts, and the targets of its references have finitely many texts: the key of a
document, a bounded number of blanks, and a fragment that occurs in some reference.
-/

namespace SchemaCheck

/-- A bound on what a walk can meet: the locators that its scopes start from, the keys of documents,
and the documents. -/
structure Horizon where
  base : Url
  keys : List String
  documents : List Json

namespace Horizon

variable {h : Horizon} {t : Setting} {members : Json.Members} {j : Json}

/-- All documents as one array. -/
def library (h : Horizon) : Json :=
  .array h.documents

/-- A part of a document, or a schema that `disallow` builds around such a part. -/
def Known (h : Horizon) (j : Json) : Prop :=
  Json.PartOf j h.library ∨ ∃ k, Json.PartOf k h.library ∧ j = k.typed

/-- A bound on the blanks at the end of a scope. -/
def blanks (h : Horizon) : Nat :=
  h.base.blanks + (h.library.texts.map String.toList).flatten.length

/-- The texts of all locators that a reference can lead to. -/
def targets (h : Horizon) : List String :=
  h.keys.flatMap fun key =>
    (List.range (h.blanks + 1)).flatMap fun n =>
      h.library.texts.map fun reference =>
        String.ofList
          (key.toList ++ (List.replicate n ' ' ++ Url.optional '#' (Url.fragmentIn reference)))

/-- A bound on the rank of known schemas. -/
def rank (h : Horizon) : Nat :=
  2 * h.library.nesting + 2

theorem Known.rank_le (hj : h.Known j) : j.rank ≤ h.rank := by
  unfold rank
  rcases hj with hpart | ⟨k, hpart, rfl⟩
  · have hrank := j.rank_le
    have hnesting := hpart.nesting_le
    omega
  · have hnesting := hpart.nesting_le
    rw [Json.rank_typed]
    omega

theorem Known.of_document (hj : j ∈ h.documents) : h.Known j :=
  .inl (.of_mem_items hj)

/-- The schemas that a known node applies are known. -/
theorem Known.inside (hknown : h.Known (.object members)) {sub : Json}
    (hinside : t.Inside members sub) : h.Known sub := by
  obtain ⟨-, entry, hmem, -, happlied⟩ := hinside
  exact Keyword.drawn_of_applied hknown hmem happlied

/-- A string that a known node declares is a string of one of the documents. -/
theorem Known.mem_texts (hknown : h.Known (.object members)) {name text : String}
    (hfind : Json.Members.find? name members = some (.string text)) : text ∈ h.library.texts := by
  have hmem := Json.Members.mem_of_find? hfind
  rcases hknown with hpart | ⟨k, hpart, htyped⟩
  · exact Json.mem_texts ((Json.PartOf.of_mem_members hmem).trans hpart)
  · obtain rfl : members = [("type", .array [k])] := Json.object.inj htyped
    cases List.mem_singleton.mp hmem

theorem length_le_blanks {text : String} (htext : text ∈ h.library.texts) :
    text.length ≤ h.blanks := by
  have hsub := List.sublist_flatten_of_mem (List.mem_map_of_mem (f := String.toList) htext)
  have hlength : text.length ≤ (h.library.texts.map String.toList).flatten.length :=
    hsub.length_le
  unfold blanks
  omega

/-- A scope that is joined with a string of a document has a bounded number of blanks at its end. -/
theorem blanks_join_le {scope u : Url} {text : String} (hscope : scope.blanks ≤ h.blanks)
    (htext : text ∈ h.library.texts) (hjoin : scope.join text = .ok u) : u.blanks ≤ h.blanks := by
  have hjoined := Url.join_blanks hjoin
  have hlength := length_le_blanks htext
  omega

theorem mem_targets {scope u : Url} {reference : String} (hscope : scope.blanks ≤ h.blanks)
    (htext : reference ∈ h.library.texts) (hjoin : scope.join reference = .ok u)
    (hkey : documentKey u ∈ h.keys) : u.write ∈ h.targets := by
  refine List.mem_flatMap.mpr ⟨documentKey u, hkey, ?_⟩
  refine List.mem_flatMap.mpr ⟨u.blanks, List.mem_range.mpr ?_, ?_⟩
  · exact Nat.lt_succ_of_le (blanks_join_le hscope htext hjoin)
  · refine List.mem_map.mpr ⟨reference, htext, ?_⟩
    rw [← Url.join_fragment hjoin]
    exact String.toList_inj.mp (by
      rw [String.toList_ofList, Url.toList_write_withoutFragment]
      rfl)

end Horizon

/-- All entries of the cache are within the horizon. -/
structure Cache.Within (h : Horizon) (c : Cache) : Prop where
  documents : ∀ entry ∈ c.documents, entry.1 ∈ h.keys ∧ entry.2 ∈ h.documents
  fragments : ∀ entry ∈ c.fragments, Json.PartOf entry.2 h.library

namespace Resolver

variable {r : Resolver} {h : Horizon} {c c' : Cache} {u : Url} {j : Json}

/-- All that the resolver retrieves is within the horizon. -/
def Confined (r : Resolver) (h : Horizon) : Prop :=
  ∀ u j, r.fetched u = .ok j → u.write ∈ h.keys ∧ j ∈ h.documents

theorem within_document (hr : r.Confined h) (hc : c.Within h) (u : Url) :
    ((r.document u).run c).2.Within h ∧
      ∀ j, ((r.document u).run c).1 = .ok j → documentKey u ∈ h.keys ∧ j ∈ h.documents := by
  have hrun := r.documentRun u c
  generalize (r.document u).run c = q at hrun ⊢
  cases hrun with
  | known hlookup =>
      refine ⟨hc, ?_⟩
      rintro _ ⟨⟩
      exact hc.documents _ (Cache.mem_of_lookup? hlookup)
  | fetched _ hfetched =>
      have hentry := hr _ _ hfetched
      refine ⟨⟨List.forall_mem_cons.mpr ⟨hentry, hc.documents⟩, hc.fragments⟩, ?_⟩
      rintro _ ⟨⟩
      exact hentry
  | failed _ _ => exact ⟨⟨hc.documents, hc.fragments⟩, by rintro _ ⟨⟩⟩

theorem within_resolveUrl (hr : r.Confined h) (hc : c.Within h) (u : Url) :
    ((r.resolveUrl u).run c).2.Within h ∧
      ∀ j, ((r.resolveUrl u).run c).1 = .ok j →
        documentKey u ∈ h.keys ∧ Json.PartOf j h.library := by
  obtain ⟨hwithin, hdocument⟩ := within_document hr hc u
  have hrun := r.resolveUrlRun u c
  generalize (r.resolveUrl u).run c = q at hrun ⊢
  cases hrun with
  | failed hfailed =>
      rw [hfailed] at hwithin
      exact ⟨hwithin, by rintro _ ⟨⟩⟩
  | whole hj _ =>
      rw [hj] at hwithin hdocument
      obtain ⟨hkey, hmem⟩ := hdocument _ rfl
      refine ⟨hwithin, ?_⟩
      rintro _ ⟨⟩
      exact ⟨hkey, .of_mem_items hmem⟩
  | known hj _ hknown =>
      rw [hj] at hwithin hdocument
      refine ⟨hwithin, ?_⟩
      rintro _ ⟨⟩
      exact ⟨(hdocument _ rfl).1, hwithin.fragments _ (Cache.mem_of_lookup? hknown)⟩
  | found hj _ _ hwalk =>
      rw [hj] at hwithin hdocument
      obtain ⟨hkey, hmem⟩ := hdocument _ rfl
      have htarget := (Json.Pointer.part_of_walk? hwalk).trans (.of_mem_items hmem)
      refine ⟨⟨hwithin.documents, fun entry hentry => ?_⟩, ?_⟩
      · rcases Cache.mem_insert hentry with rfl | hentry
        · exact htarget
        · exact hwithin.fragments entry hentry
      · rintro _ ⟨⟩
        exact ⟨hkey, htarget⟩
  | missing hj _ _ _ =>
      rw [hj] at hwithin
      exact ⟨hwithin, by rintro _ ⟨⟩⟩

theorem within_resolve (hr : r.Confined h) (hc : c.Within h) (reference : String)
    (scopes : ScopeStack) :
    ((r.resolve reference scopes).run c).2.Within h ∧
      ∀ target, ((r.resolve reference scopes).run c).1 = .ok target →
        scopes.current.join reference = .ok target.url ∧ documentKey target.url ∈ h.keys ∧
          Json.PartOf target.schema h.library := by
  have hrun := r.resolveRun reference scopes c
  generalize (r.resolve reference scopes).run c = q at hrun ⊢
  cases hrun with
  | unread _ => exact ⟨hc, by rintro _ ⟨⟩⟩
  | @failed u _ _ _ hfailed =>
      obtain ⟨hwithin, -⟩ := within_resolveUrl hr hc u
      rw [hfailed] at hwithin
      exact ⟨hwithin, by rintro _ ⟨⟩⟩
  | @resolved u j _ hjoin hj =>
      obtain ⟨hwithin, hresolved⟩ := within_resolveUrl hr hc u
      rw [hj] at hwithin hresolved
      refine ⟨hwithin, ?_⟩
      rintro _ ⟨⟩
      exact ⟨hjoin, hresolved j rfl⟩

/-- The horizon of a resolver whose fetcher succeeds only at the given locators. -/
def horizon (r : Resolver) (root : Json) (urls : List Url) : Horizon where
  base := r.base
  keys := (r.seed root).documents.map (·.1) ++ urls.map Url.write
  documents :=
    root :: ((r.seed root).documents.map (·.2) ++ urls.filterMap fun u => (r.fetched u).toOption)

theorem confined_horizon {urls : List Url}
    (hfetcher : ∀ u bytes, r.fetcher u = .ok bytes → u ∈ urls) (root : Json) :
    r.Confined (r.horizon root urls) := by
  intro u j hfetched
  obtain ⟨bytes, -, hbytes, -⟩ := fetched_eq_ok hfetched
  have hmem : u ∈ urls := hfetcher u bytes hbytes
  refine ⟨List.mem_append_right _ (List.mem_map_of_mem hmem), ?_⟩
  refine List.mem_cons_of_mem _ (List.mem_append_right _ (List.mem_filterMap.mpr ⟨u, hmem, ?_⟩))
  rw [hfetched]
  rfl

theorem within_seed (r : Resolver) (root : Json) (urls : List Url) :
    (r.seed root).Within (r.horizon root urls) where
  documents entry hentry :=
    ⟨List.mem_append_left _ (List.mem_map_of_mem hentry),
      List.mem_cons_of_mem _ (List.mem_append_left _ (List.mem_map_of_mem hentry))⟩
  fragments entry hentry := by cases hentry

end Resolver

theorem Memory.learning_within {r : Resolver} {h : Horizon} (hr : r.Confined h) :
    Memory.Learning r fun m n => m.cache.Within h → n.cache.Within h where
  refl _ := id
  trans hlm hmn hl := hmn (hlm hl)
  resolve reference scopes _ hm := (r.within_resolve hr hm reference scopes).1
  regex _ _ _ _ hm := hm

end SchemaCheck
