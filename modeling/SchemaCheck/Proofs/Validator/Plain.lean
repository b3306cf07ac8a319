import SchemaCheck.Proofs.Validator.Independence
import SchemaCheck.Proofs.Visit.Plain

/-!
Validations with the ban switched off do not depend on the ban.
-/

namespace SchemaCheck

open Walk

/-- Whenever a validation applies a schema with the ban off, at its root or inside it, and no schema
that can be reached from there switches the ban on, the result is the one without checks of unions
and without the keyword of the ban: the same violations in the same order or the same failure, and
the same state. None of these violations belongs to the ban, nor do any in their contexts. -/
theorem Options.plain_where_unbanned (o : Options) (hvocabulary : o.registry = none) (schema : Json)
    (base : Url) :
    let v := o.assemble schema base
    ∀ (s : WalkState) (node : Json) (override : Option Bool),
      s.scopes.Regular → s.memory.Sound v.setting.resolver v.schema →
      s.frame.ban = false → override ≠ some true →
      v.setting.UnbannedFrom v.schema ⟨s.scopes.current, node⟩ →
      ∀ depth subject,
        v.setting.visit depth subject node override s =
            v.setting.plain.visit depth subject node override s ∧
          ∀ violations, (v.setting.visit depth subject node override s).1 = .ok violations →
            ∀ violation ∈ violations, violation.Spared := by
  intro v s node override hs hm hframe hoverride hfree depth subject
  have ht : v.setting.registry = .ofDraft o.draft := registry_assemble hvocabulary schema base
  have hlinked := Setting.linked_plain ht rfl hs hframe hoverride hfree depth subject
  have hsame : v.setting.visit depth subject node override s =
      v.setting.plain.visit depth subject node override s :=
    (hlinked s.memory s.memory ⟨rfl, hm⟩).eq_of_same
  refine ⟨hsame, fun violations hrun => ?_⟩
  rw [hsame] at hrun
  exact Setting.lists_visit_plain ht depth subject node override s violations hrun

/-- A schema with the ban off, which refers to one with branches, beside a schema with the ban on.
The settings of the call have the ban on. -/
theorem Options.plain_where_unbanned_below :
    let o : Options := { standard .offline with depth := 9 }
    let branch : Json := .object [("properties", .object [("k", .object [])])]
    let pair : Json := .object [("allOf", .array [branch])]
    let node : Json := .object [("$ref", .string "#/definitions/pair")]
    let below : Json.Members :=
      [("banUnknownProperties", .bool false), ("properties", .object [("nested", node)])]
    let beside : Json := .object [("banUnknownProperties", .bool true)]
    let members : Json.Members := [("definitions", .object [("pair", pair)]),
      ("properties", .object [("free", .object below), ("strict", beside)])]
    let v := o.assemble (.object members) Validator.defaultBase
    let outer := (v.start .standard v.memory).within members none none false
    let s := outer.within below none none false
    let subject : Subject :=
      ⟨.object [("k", .null), ("other", .null)], [.key "free", .key "nested"]⟩
    outer.frame.ban = true ∧ s.frame.ban = false ∧
      v.setting.UnbannedFrom v.schema ⟨s.scopes.current, node⟩ ∧
      (v.setting.visit 9 subject node none s).1.map List.isEmpty = .ok true ∧
      v.setting.visit 9 subject node none s = v.setting.plain.visit 9 subject node none s := by
  intro o branch pair node below beside members v outer s subject
  have hbase : v.setting.resolver.base.Regular := Validator.regular_defaultBase
  have hlawful : v.setting.registry.Lawful := (Registry.preset_ofDraft .draft4).lawful
  have hresolves : ((v.setting.resolver.resolve "#/definitions/pair"
      (.ofBase Validator.defaultBase)).run (v.setting.resolver.seed v.schema)).1 =
        .ok ⟨{ Validator.defaultBase with fragment := some "/definitions/pair" }, pair⟩ := by
    rfl
  have hempty (scope : Url) : v.setting.UnbannedFrom v.schema ⟨scope, .object []⟩ := by
    refine .of_none rfl rfl (by decide) ?_
    rintro _ ⟨-, _, hentry, -⟩
    cases hentry
  have hbranch (scope : Url) : v.setting.UnbannedFrom v.schema ⟨scope, branch⟩ := by
    refine .of_none rfl rfl (by decide) ?_
    rintro sub ⟨-, entry, hentry, -, hsub⟩
    obtain rfl := List.mem_singleton.mp hentry
    obtain rfl := List.mem_singleton.mp hsub
    exact hempty _
  have hpair (scope : Url) : v.setting.UnbannedFrom v.schema ⟨scope, pair⟩ := by
    refine .of_none rfl rfl (by decide) ?_
    rintro sub ⟨-, entry, hentry, -, hsub⟩
    obtain rfl := List.mem_singleton.mp hentry
    obtain rfl := List.mem_singleton.mp hsub
    exact hbranch _
  have hfree : v.setting.UnbannedFrom v.schema ⟨s.scopes.current, node⟩ :=
    .of_target ⟨rfl, rfl, hresolves⟩ (by decide) (hpair _)
  refine ⟨rfl, rfl, hfree, by decide +kernel, ?_⟩
  exact (o.plain_where_unbanned rfl (.object members) Validator.defaultBase s node none
    (.ofBase hbase) (Validator.Recalls.first.sound hlawful hbase) rfl nofun hfree 9 subject).1

end SchemaCheck
