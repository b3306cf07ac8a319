import SchemaCheck.Proofs.Validator.Independence
import SchemaCheck.Proofs.Validator.Termination
import SchemaCheck.Proofs.Visit.SelfContained

/-!
Validations by a schema without references to other documents. They make no requests and do not
depend on the fetcher, as long as joining the `id` of the schema with the resulting locator does not
change that locator.
-/

namespace SchemaCheck

namespace Validator

variable {v : Validator} {draft : Draft} {memory : Memory}

/-- A validation that stays in the root makes no requests, and its result does not depend on the
fetcher. -/
theorem violations_of_selfContained (ht : v.setting.registry = .ofDraft draft)
    (hcycles : v.setting.findsCycles = true) (hbase : v.setting.resolver.base.Regular)
    (hr : v.setting.resolver.SelfContained v.schema) (fetcher : Fetcher) (instance_ : Json)
    (config : Config) (hm : v.setting.Untouched v.schema memory) :
    let other : Validator :=
      { v with setting := { v.setting with resolver := { v.setting.resolver with fetcher } } }
    (v.violations instance_ config).outcome memory =
        (other.violations instance_ config).outcome memory ∧
      (v.violations instance_ config).leaves memory =
        (other.violations instance_ config).leaves memory ∧
      v.setting.Untouched v.schema ((v.violations instance_ config).leaves memory) := by
  intro other
  have hfirst : v.setting.InRoot v.schema (v.start config memory) v.schema :=
    ⟨.base rfl, hbase, .inl .whole, .inl rfl⟩
  have hlinked := (Setting.passes_inRoot hr).linked_resolver ht hcycles
    (Setting.agreesWhere_inRoot hr fetcher) v.depth hfirst (.root instance_) none
  have hmeets := hlinked memory memory ⟨rfl, hm⟩
  exact ⟨hmeets.of_same.1, hmeets.memory_of_same⟩

/-- The memory of such a validator does not depend on the fetcher, and no requests have been
made. -/
theorem Recalls.selfContained (ht : v.setting.registry = .ofDraft draft)
    (hcycles : v.setting.findsCycles = true) (hbase : v.setting.resolver.base.Regular)
    (hr : v.setting.resolver.SelfContained v.schema) (fetcher : Fetcher) (h : v.Recalls memory) :
    let other : Validator :=
      { v with setting := { v.setting with resolver := { v.setting.resolver with fetcher } } }
    other.Recalls memory ∧ v.setting.Untouched v.schema memory := by
  intro other
  induction h with
  | first =>
      exact ⟨.first, ⟨Resolver.sound_seed _ _, fun _ hentry => nomatch hentry⟩, rfl⟩
  | later _ instance_ config depth ih =>
      obtain ⟨hrecalls, huntouched⟩ := ih
      obtain ⟨-, hleaves, hafter⟩ := violations_of_selfContained (v := v.withDepth depth) ht hcycles
        hbase hr fetcher instance_ config huntouched
      exact ⟨hleaves ▸ .later hrecalls instance_ config depth, hafter⟩

end Validator

/-- The schema that a validator keeps is self-contained if the given one is. -/
theorem Options.selfContained_build (o : Options) {schema : Json} {base : Url}
    (hbelow : schema.idsBelow = [])
    (hreferences : ∀ part ∈ schema.parts, ∀ reference,
      part.get? "$ref" = some (.string reference) → reference.toList.head? = some '#')
    (hstable : o.keepsIds = true → ∀ id declared again, schema.get? "id" = some (.string id) →
      base.join id = .ok declared → declared.join id = .ok again → again.bare = declared.bare) :
    (o.build schema base).setting.resolver.SelfContained (o.build schema base).schema := by
  by_cases hkeeps : o.keepsIds = true
  · have hschema : (o.build schema base).schema = schema := by simp [build, assemble, hkeeps]
    rw [hschema]
    exact ⟨hbelow, fun _ _ => hkeeps, hstable hkeeps, hreferences⟩
  · have hschema : (o.build schema base).schema = schema.without "id" := by
      simp [build, assemble, hkeeps]
    have hnone (id : String) : (schema.without "id").get? "id" ≠ some (.string id) := by
      rw [Json.get?_without_self]
      exact (Option.some_ne_none _).symm
    have hids : (schema.without "id").idsBelow = [] := by
      refine List.eq_nil_of_subset_nil fun id hid => ?_
      rw [← hbelow]
      exact schema.ids_without_subset (Json.idsBelow_subset_ids _ hid)
    have hget : (schema.without "id").get? "$ref" = schema.get? "$ref" :=
      schema.get?_without_of_ne (by decide)
    rw [hschema]
    refine ⟨hids, fun id h => absurd h (hnone id), fun id _ _ h => absurd h (hnone id), ?_⟩
    intro part hpart reference hreference
    rcases Json.mem_parts_without hpart with rfl | hpart
    · exact hreferences schema schema.mem_parts_self reference (hget ▸ hreference)
    · exact hreferences part hpart reference hreference

/-- If a schema has no `id` below its top level and all its references are fragments, every
validation by it terminates and makes no requests, for every instance and after any other
validations. If ids are kept, this requires that the scope declared by the `id` of the schema does
not change, apart from its fragment, if the `id` is joined with it again, which happens when a
reference enters the schema a second time. -/
theorem Options.validates_alone (o : Options) (hvocabulary : o.registry = none) (schema : Json)
    (hbelow : schema.idsBelow = [])
    (hreferences : ∀ part ∈ schema.parts, ∀ reference,
      part.get? "$ref" = some (.string reference) → reference.toList.head? = some '#')
    (base : Url) (hbase : base.Regular)
    (hstable : o.keepsIds = true → ∀ id declared again, schema.get? "id" = some (.string id) →
      base.join id = .ok declared → declared.join id = .ok again → again.bare = declared.bare) :
    let v := o.build schema base
    ∀ instance_,
      (∃ n, ∀ config memory, v.Recalls memory → ∀ depth, n ≤ depth →
        ((v.withDepth depth).violations instance_ config).outcome memory ≠ .error .tooDeep) ∧
      ∀ config memory, v.Recalls memory → ∀ depth,
        (((v.withDepth depth).violations instance_ config).leaves memory).cache.requests = [] := by
  intro v instance_
  have ht : v.setting.registry = .ofDraft o.draft := by
    simp [v, build, assemble, hvocabulary]
  have hr : v.setting.resolver.SelfContained v.schema :=
    o.selfContained_build hbelow hreferences hstable
  have hrecalls {memory : Memory} (h : v.Recalls memory) := h.selfContained ht rfl hbase hr .offline
  have hrun {memory : Memory} (depth : Nat) (config : Config) (h : v.Recalls memory) :=
    Validator.violations_of_selfContained (v := v.withDepth depth) ht rfl hbase hr .offline
      instance_ config (hrecalls h).2
  -- The result does not depend on the fetcher, and with one that always fails walks terminate.
  obtain ⟨n, hn⟩ := { o with fetcher := Fetcher.offline }.exists_depth hvocabulary []
    (fun u bytes h => absurd h (Fetcher.offline_ne_ok u bytes))
    (if o.keepsIds then schema else schema.without "id") base instance_
  refine ⟨⟨n, fun config memory hmemory depth hdepth => ?_⟩,
    fun config memory hmemory depth => (hrun depth config hmemory).2.2.requests⟩
  rw [(hrun depth config hmemory).1]
  exact (hn config memory (hrecalls hmemory).1 depth hdepth).1

/-- A list of any depth and a recursive schema that keeps its `id`, with an arbitrary fetcher. The
`id` names a file in the directory of the base. -/
theorem Options.validates_alone_list :
    let base : Url := Validator.defaultBase
    let fetcher : Fetcher := fun _ => .ok (Utf8.encodeChars "\x7b\x7d".toList)
    let o : Options := ⟨.draft4, true, .standard, none, fetcher, 9⟩
    let schema : Json := .object [("id", .string "list.json"),
      ("properties", .object [("next", .object [("$ref", .string "#")]),
        ("value", .object [("$ref", .string "#/definitions/value")])]),
      ("definitions", .object [("value", .object [("type", .string "string")])])]
    let v := o.build schema base
    let node (next : Json.Members) : Json := .object (("value", .null) :: next)
    let list : Json := node [("next", node [("next", node [])])]
    let x := (v.withDepth 20).violations list .standard
    (x.outcome v.memory).map List.length = .ok 3 ∧
      (x.leaves v.memory).cache.requests = [] ∧
      ∀ instance_, ∃ n, ∀ depth, n ≤ depth →
        ((v.withDepth depth).violations instance_ .standard).outcome v.memory ≠ .error .tooDeep := by
  intro base fetcher o schema v node list x
  have hparse : Url.parse "memory:///schema.json" = .ok base := by decide +kernel
  have hreferences : ∀ part ∈ schema.parts, ∀ reference,
      part.get? "$ref" = some (.string reference) → reference.toList.head? = some '#' := by
    have hhead : ∀ part ∈ schema.parts,
        ∀ reference ∈ (part.get? "$ref").bind Json.string?,
          reference.toList.head? = some '#' := by decide +kernel
    exact fun part hpart reference h => hhead part hpart reference (by rw [h]; rfl)
  have hstable (id : String) (declared again : Url)
      (hid : schema.get? "id" = some (.string id)) (hjoin : base.join id = .ok declared)
      (hagain : declared.join id = .ok again) : again.bare = declared.bare := by
    obtain rfl : "list.json" = id := Json.string.inj (Option.some.inj hid)
    have hbeside : base.join "list.json" = .ok { base with path := .rooted ["list.json"] } := by
      decide +kernel
    rw [hbeside] at hjoin
    cases hjoin
    have hitself : Url.join { base with path := .rooted ["list.json"] } "list.json" =
        .ok { base with path := .rooted ["list.json"] } := by decide +kernel
    rw [hitself] at hagain
    cases hagain
    rfl
  have halone := o.validates_alone rfl schema rfl hreferences base (Url.parse_regular hparse)
    fun _ => hstable
  have hquiet := (halone list).2 .standard v.memory .first 20
  refine ⟨by decide +kernel, by with_reducible exact hquiet, fun instance_ => ?_⟩
  obtain ⟨n, hn⟩ := (halone instance_).1
  exact ⟨n, hn .standard v.memory .first⟩

/-- An `id` with a directory is joined again when a reference enters the schema a second time, and a
document in a nested directory is requested. -/
theorem Options.asks_for_itself :
    let base : Url :=
      ⟨"memory", some ⟨"", "", none⟩, .rooted ["root.json"], none, none⟩
    let o : Options := ⟨.draft4, true, .standard, none, .offline, 9⟩
    let schema : Json := .object [("id", .string "sub/root.json"),
      ("properties", .object [("next", .object [("$ref", .string "#")])])]
    let v := o.build schema base
    let once := v.violations (.object [("next", .object [])]) .standard
    let twice := v.violations (.object [("next", .object [("next", .object [])])]) .standard
    let deeper : Url := { base with path := .rooted ["sub", "sub", "root.json"] }
    schema.idsBelow = [] ∧
      ((once.outcome v.memory).map List.length = .ok 0 ∧
        (once.leaves v.memory).cache.requests = []) ∧
      (twice.outcome v.memory).map List.length = .error (.schema (.fetch deeper.write "offline")) ∧
      (twice.leaves v.memory).cache.requests = [deeper] := by
  decide +kernel

end SchemaCheck
