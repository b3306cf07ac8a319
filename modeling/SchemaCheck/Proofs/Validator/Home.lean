import SchemaCheck.Proofs.Validator.Independence
import SchemaCheck.Proofs.Visit.Home

/-!
Validations without ids. A validator that removes ids joins every reference with the locator of the
document that contains the reference, by whatever chain of references the document was entered.
-/

namespace SchemaCheck

/-- A loaded validator is the one that is built from its document. -/
theorem Options.build_of_load {o : Options} {uri : String} {c : Cache}
    {v : Validator} (h : ((o.load uri).run c).1 = .ok v) :
    ∃ base bytes document, Url.parse uri = .ok base ∧ o.fetcher base = .ok bytes ∧
      Document.decode base bytes = .ok document ∧ v = o.build document base := by
  unfold load at h
  cases hparse : Url.parse uri with
  | error e =>
      rw [hparse] at h
      cases h
  | ok base =>
      rw [hparse] at h
      have hload := (o.resolver base).run_load base c
      rcases hfetched : (o.resolver base).fetched base with e | kept
      · rw [hfetched] at hload
        dsimp only at h
        rw [Resolving.run_bind_of_error hload] at h
        cases h
      · rw [hfetched] at hload
        dsimp only at h
        rw [Resolving.run_bind_of_ok hload] at h
        obtain ⟨bytes, document, hbytes, hdocument, rfl⟩ := Resolver.fetched_eq_ok hfetched
        cases h
        exact ⟨base, bytes, document, rfl, hbytes, hdocument, rfl⟩

open Classical in
/-- If ids are not kept and no object below the top level of the schema or of a document has a
string as its `id`, every schema that a validation applies is at home: it lies in the document that
the innermost open reference leads to, and its references are joined with the locator of that
document. For the root schema and its parts this locator is the base. -/
theorem Options.applies_at_home (o : Options) (hvocabulary : o.registry = none)
    (hids : o.keepsIds = false) (schema : Json) (hschema : schema.idsBelow = [])
    (hserved : ∀ u bytes document, o.fetcher u = .ok bytes →
      Document.decode u bytes = .ok document → document.idsBelow = [])
    (base : Url) (hbase : base.Regular) :
    let v := o.build schema base
    ∀ instance_ config memory, v.Recalls memory → ∀ depth e,
      (v.setting.visitWhere (fun s sub => ∃ home, v.setting.AtHome v.schema home s sub) e depth
        (.root instance_) v.schema none (v.start config memory)).1 =
      ((v.withDepth depth).violations instance_ config).outcome memory := by
  intro v instance_ config memory hmemory depth e
  have ht : v.setting.registry = .ofDraft o.draft := by
    simp [v, build, assemble, hvocabulary]
  have hkept : v.schema = schema.without "id" := by simp [v, build, assemble, hids]
  have hroot : v.schema.ids = [] := by
    rw [hkept]
    exact List.eq_nil_of_subset_nil (hschema ▸ schema.ids_without_subset)
  have hr : v.setting.resolver.Nameless v.schema :=
    Resolver.nameless_of_served hids hroot hserved
  have hholds : v.setting.resolver.Holds v.schema base v.schema :=
    ⟨v.schema, v.setting.resolver.documentAt_base v.schema, .inl .whole⟩
  have hhome : v.setting.AtHome v.schema base (v.start config memory) v.schema :=
    .of_holds hr .root hholds (fun _ => rfl) hbase
  have hlawful : v.setting.registry.Lawful := ht ▸ (Registry.preset_ofDraft o.draft).lawful
  have hsound := hmemory.sound hlawful hbase
  have hlinked := (Setting.passes_atHome hr).linked ht rfl e depth ⟨base, hhome⟩
    (.root instance_) none
  exact (hlinked memory memory ⟨rfl, hsound⟩).of_same.1.symm

open Classical in
/-- A chain of two references through three documents, each with an `id` for another location. The
requests go to the locations next to the documents, not next to the ids. -/
theorem Options.applies_at_home_chain :
    let base : Url :=
      ⟨"memory", some ⟨"", "", none⟩, .rooted ["dir", "schema.json"], none, none⟩
    let defs : Url := { base with path := .rooted ["dir", "sub", "defs.json"] }
    let more : Url := { base with path := .rooted ["dir", "sub", "more.json"] }
    let served : List (Url × String) :=
      [(defs, "\x7b\"id\":\"memory:///b/\",\"n\":\x7b\"$ref\":\"more.json\"\x7d\x7d"),
        (more, "\x7b\"id\":\"c/\",\"type\":\"integer\"\x7d")]
    let o : Options := standard fun u =>
      match served.find? (·.1 = u) with
      | some (_, text) => .ok (Utf8.encodeChars text.toList)
      | none => .error (.fetch u.write "offline")
    let schema : Json := .object [("id", .string "memory:///a/"),
      ("properties", .object [("p", .object [("$ref", .string "sub/defs.json#/n")])])]
    let v := o.build schema base
    let instance_ : Json := .object [("p", .string "x")]
    let x := (v.withDepth 9).violations instance_ .permissive
    schema.idsBelow = [] ∧
      (∀ entry ∈ served, (Document.decode entry.1
        (Utf8.encodeChars entry.2.toList)).map Json.idsBelow = .ok []) ∧
      (x.leaves v.memory).cache.requests = [more, defs] ∧
      (x.outcome v.memory).map List.length = .ok 1 ∧
      ∀ e, (v.setting.visitWhere (fun s sub => ∃ home, v.setting.AtHome v.schema home s sub) e 9
        (.root instance_) v.schema none (v.start .permissive v.memory)).1.map List.length =
          .ok 1 := by
  intro base defs more served o schema v instance_ x
  have hparse : Url.parse "memory:///dir/schema.json" = .ok base := by decide +kernel
  have hdecoded : ∀ entry ∈ served, (Document.decode entry.1
      (Utf8.encodeChars entry.2.toList)).map Json.idsBelow = .ok [] := by decide +kernel
  have hserved (u : Url) (bytes : Utf8.Bytes) (document : Json) (hbytes : o.fetcher u = .ok bytes)
      (hdocument : Document.decode u bytes = .ok document) : document.idsBelow = [] := by
    cases hfind : served.find? (·.1 = u) with
    | none => simp [o, standard, hfind] at hbytes
    | some entry =>
        obtain rfl : entry.1 = u := by simpa using List.find?_some hfind
        obtain rfl : Utf8.encodeChars entry.2.toList = bytes := by
          simpa [o, standard, hfind] using hbytes
        have hbelow := hdecoded entry (List.mem_of_find?_eq_some hfind)
        rw [hdocument] at hbelow
        exact Except.ok.inj hbelow
  have hrun : (x.outcome v.memory).map List.length = .ok 1 := by decide +kernel
  refine ⟨rfl, hdecoded, by decide +kernel, hrun, fun e => ?_⟩
  have hhome := o.applies_at_home rfl rfl schema rfl hserved base (Url.parse_regular hparse)
    instance_ .permissive v.memory .first 9 e
  exact (congrArg _ hhome).trans hrun

end SchemaCheck
