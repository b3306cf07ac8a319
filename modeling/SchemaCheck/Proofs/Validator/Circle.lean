import SchemaCheck.Proofs.Validator.Independence
import SchemaCheck.Proofs.Validator.Termination
import SchemaCheck.Proofs.Visit.Circle

/-!
Reference cycles are reported exactly if the validation would not terminate without the check. The
memory of a validator makes no difference here, since it is always sound.
-/

namespace SchemaCheck

open Walk

namespace Setting

variable {t : Setting} {root schema : Json} {scope : Url} {h : Horizon}

/-- All reachable schemas are known to the horizon. -/
theorem Reachable.known (hr : t.resolver.Confined h) (hseed : (t.resolver.seed root).Within h)
    (hroot : root ∈ h.documents) (hreach : t.Reachable root scope schema) : h.Known schema := by
  induction hreach with
  | root => exact .of_document hroot
  | inside _ _ hinside ih => exact ih.inside hinside
  | target _ _ _ hresolve _ =>
      exact .inl ((t.resolver.within_resolve hr hseed _ _).2 _ hresolve).2.2

/-- A property of all nodes of the documents that can be loaded, and of the schemas that `disallow`
builds, holds for all reachable schemas. -/
theorem Reachable.of_documents {p : Json.Members → Prop} {members : Json.Members} (urls : List Url)
    (hfetcher : ∀ u bytes, t.resolver.fetcher u = .ok bytes → u ∈ urls)
    (hdocuments : ∀ members, Json.PartOf (.object members) (t.resolver.horizon root urls).library →
      p members)
    (htyped : ∀ k, p [("type", .array [k])]) (hreach : t.Reachable root scope (.object members)) :
    p members := by
  rcases hreach.known (t.resolver.confined_horizon hfetcher root)
    (t.resolver.within_seed root urls) List.mem_cons_self with hpart | ⟨k, -, heq⟩
  · exact hdocuments members hpart
  · obtain rfl : members = [("type", .array [k])] := Json.object.inj heq
    exact htyped k

/-- No reachable schema switches the ban on if no document that can be loaded does. -/
theorem unbanned_of_documents (urls : List Url)
    (hfetcher : ∀ u bytes, t.resolver.fetcher u = .ok bytes → u ∈ urls)
    (hban : ∀ members, Json.PartOf (.object members) (t.resolver.horizon root urls).library →
      Json.Members.find? Ban.keyword members ≠ some (.bool true)) : t.Unbanned root :=
  fun _ _ hreach => hreach.of_documents urls hfetcher hban fun _ => by
    simp [Json.Members.find?, Ban.keyword]

end Setting

namespace Validator

/-- The validator without the check for reference cycles. -/
def unchecked (v : Validator) : Validator :=
  { v with setting := v.setting.unchecked }

/-- The validation fails with the error for reference cycles. -/
def ReportsCycle (v : Validator) (instance_ : Json) (memory : Memory) : Prop :=
  ∃ e, (v.violations instance_ .permissive).outcome memory = .error e ∧ e.ReportsCycle

end Validator

/-- Exactness of the check for reference cycles. If the ban is off and no reachable schema switches
it on, a validation with a sufficient depth reports a cycle iff the validation without the check
does not terminate, that is, reaches the depth limit for every limit; and if no cycle is reported,
both have the same result. The fetcher does not itself report cycles, the base is regular and the
instance ordered, as all parsed ones are. -/
theorem Options.reportsCycle_iff_endless (o : Options) (hvocabulary : o.registry = none)
    (urls : List Url) (hfetcher : ∀ u bytes, o.fetcher u = .ok bytes → u ∈ urls)
    (hhonest : ∀ u e, o.fetcher u = .error e →
      ∀ reference, e ≠ .invalidReference reference "reference cycle")
    (schema : Json) (base : Url) (hbase : base.Regular)
    (hban : (o.assemble schema base).setting.Unbanned schema) (instance_ : Json)
    (hinstance : instance_.Ordered) :
    let v := o.assemble schema base
    ∃ n, ∀ memory, v.Recalls memory → ∀ depth, n ≤ depth →
      ((v.withDepth depth).ReportsCycle instance_ memory ↔
        ∀ k, ((v.unchecked.withDepth k).violations instance_ .permissive).outcome memory =
          .error .tooDeep) ∧
      (¬ (v.withDepth depth).ReportsCycle instance_ memory →
        ((v.withDepth depth).violations instance_ .permissive).outcome memory ≠ .error .tooDeep ∧
        ∀ k, n ≤ k → ((v.unchecked.withDepth k).violations instance_ .permissive).outcome memory =
          ((v.withDepth depth).violations instance_ .permissive).outcome memory) := by
  intro v
  have ht : v.setting.registry = .ofDraft o.draft := by
    simp [v, assemble, hvocabulary]
  obtain ⟨n, hn⟩ := o.exists_depth hvocabulary urls hfetcher schema base instance_
  refine ⟨n, fun memory hmemory depth hdepth => ?_⟩
  have hlawful : v.setting.registry.Lawful := ht ▸ (Registry.preset_ofDraft o.draft).lawful
  have hsound := hmemory.sound hlawful hbase
  have hready : (v.start .permissive memory).Ready base := ⟨rfl, rfl⟩
  have hreach : v.setting.Reachable schema base schema := .root
  have hlies : (Subject.root instance_).LiesIn instance_ := ⟨rfl, hinstance⟩
  -- Up to a reported cycle the two validations agree at every depth.
  have hsame (k : Nat) (hnone : ¬ (v.withDepth k).ReportsCycle instance_ memory) :
      ((v.unchecked.withDepth k).violations instance_ .permissive).outcome memory =
        ((v.withDepth k).violations instance_ .permissive).outcome memory := by
    have hmeets := Setting.linked_unchecked ht hhonest hbase hban k (.root instance_)
      hreach hready hready memory memory ⟨hsound, hsound⟩
    rcases hmeets.result with ⟨hsame, -⟩ | ⟨e, hcycle⟩ | ⟨e, -, hfalse⟩
    · exact hsame.symm
    · exact absurd ⟨e, hcycle⟩ hnone
    · exact hfalse.elim
  -- If a cycle is reported, the other one reaches its limit at every depth.
  have hendless (hcycle : (v.withDepth depth).ReportsCycle instance_ memory) (k : Nat) :
      ((v.unchecked.withDepth k).violations instance_ .permissive).outcome memory =
        .error .tooDeep := by
    obtain ⟨e, hreport, hcycle⟩ := hcycle
    have hmeets := Setting.linked_of_endless ht hhonest hbase hban depth k
      hreach hlies hready hready (fun key hkey => absurd hkey List.not_mem_nil) memory memory ⟨hsound, hsound⟩
    rcases hmeets.result with ⟨-, hboth⟩ | ⟨e', hleft, rfl⟩ | ⟨e', hright, rfl⟩
    · exact absurd hcycle (hboth e hreport)
    · exact absurd hleft (hn .permissive memory hmemory depth hdepth).1
    · exact hright
  refine ⟨⟨hendless, fun hall => ?_⟩, fun hnone => ⟨?_, fun k hk => ?_⟩⟩
  · by_contra hnone
    exact (hn .permissive memory hmemory depth hdepth).1 ((hsame depth hnone).symm.trans (hall depth))
  · exact (hn .permissive memory hmemory depth hdepth).1
  · have hdepths := (hn .permissive memory hmemory k hk).2.trans
      (hn .permissive memory hmemory depth hdepth).2.symm
    refine (hsame k ?_).trans hdepths
    rintro ⟨e, hreport, hcycle⟩
    exact hnone ⟨e, hdepths.symm.trans hreport, hcycle⟩

/-- A list whose elements are reached by a reference. The reference moves into the instance each
time, so that no cycle is reported for a list of any depth. -/
theorem Options.reportsCycle_iff_endless_list :
    let o : Options := standard .offline
    let schema : Json :=
      .object [("properties", .object [("next", .object [("$ref", .string "#")])])]
    let list : Json := .object [("next", .object [("next", .null)])]
    let v := o.assemble schema Validator.defaultBase
    (((v.unchecked.withDepth 9).violations list .permissive).outcome v.memory).map List.length =
        .ok 0 ∧
      ∃ n, ∀ depth, n ≤ depth → ¬ (v.withDepth depth).ReportsCycle list v.memory := by
  intro o schema list v
  have hrun : (((v.unchecked.withDepth 9).violations list .permissive).outcome v.memory).map
      List.length = .ok 0 := by decide +kernel
  have hparse : Url.parse "memory:///schema.json" = .ok Validator.defaultBase := by
    decide +kernel
  have hoffline (u : Url) (bytes : Utf8.Bytes) (h : Fetcher.offline u = .ok bytes) :
      u ∈ ([] : List Url) := absurd h (Fetcher.offline_ne_ok u bytes)
  have hban : v.setting.Unbanned schema := by
    refine Setting.unbanned_of_documents [] hoffline fun members h => ?_
    -- The objects of the schema, from the outside in.
    rcases h with - | ⟨hitem, hpart⟩
    have hdocuments : (v.setting.resolver.horizon schema []).documents = [schema, schema] := rfl
    rw [hdocuments, List.mem_pair, or_self_iff] at hitem
    subst hitem
    simp only [schema] at hpart
    rcases hpart with - | - | ⟨hmem, hpart⟩
    · simp [Json.Members.find?, Ban.keyword]
    · cases List.mem_singleton.mp hmem
      rcases hpart with - | - | ⟨hmem, hpart⟩
      · simp [Json.Members.find?, Ban.keyword]
      · cases List.mem_singleton.mp hmem
        rcases hpart with - | - | ⟨hmem, hpart⟩
        · simp [Json.Members.find?, Ban.keyword]
        · cases List.mem_singleton.mp hmem
          cases hpart
  have hlist : list.Ordered := .single (.single (by rintro _ ⟨⟩))
  have hhonest (u : Url) (e : SchemaError) (herror : o.fetcher u = .error e) (reference : String) :
      e ≠ .invalidReference reference "reference cycle" := by
    cases herror
    rintro ⟨⟩
  obtain ⟨n, hn⟩ := o.reportsCycle_iff_endless rfl [] hoffline hhonest schema
    Validator.defaultBase (Url.parse_regular hparse) hban list hlist
  refine ⟨hrun, n, fun depth hdepth hcycle => ?_⟩
  rw [(hn v.memory .first depth hdepth).1.mp hcycle 9] at hrun
  cases hrun

end SchemaCheck
