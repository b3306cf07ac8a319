import SchemaCheck.Proofs.Validator.Independence
import SchemaCheck.Proofs.Visit.Relief

/-!
Branches are not banned again after the check of their union, but the branches of a branch are.
-/

namespace SchemaCheck

/-- Whenever a validation applies a node that combines branches with the ban in force, the ban
reports nothing for a single branch, neither for its declarations nor for a union of its own
branches, no matter how many references lead from the branch to its schema. The branch and the
schemas that these references lead to must not switch the ban on. -/
theorem Options.relieves_branches (o : Options) (hvocabulary : o.registry = none) (schema : Json)
    (base : Url) :
    let v := o.assemble schema base
    ∀ (s : WalkState) (members : Json.Members) (override : Option Bool) (own : Option Url),
      s.scopes.Regular → s.memory.Sound v.setting.resolver v.schema →
      Setting.declaredScope members s.scopes = .ok own →
      Setting.effectiveBan members override s.frame.ban = true →
      Json.Members.find? Setting.refKeyword members = none →
      Setting.combinators.filterMap (Setting.branchesOf members) ≠ [] →
      (∀ name ∈ Setting.combinators, ∀ declared, (name, declared) ∈ members →
        ∀ branch ∈ declared.elements,
          v.setting.UnbannedBranch v.schema ⟨own.getD s.scopes.current, branch⟩) →
      ∀ depth subject violations,
        (v.setting.visit depth subject (.object members) override s).1 = .ok violations →
        ∀ violation ∈ violations, violation.SparesBranches := by
  intro v s members override own hs hm hown heffective hnone hcombines hfree depth subject
    violations hrun
  have ht : v.setting.registry = .ofDraft o.draft := registry_assemble hvocabulary schema base
  cases depth with
  | zero => cases hrun
  | succ depth =>
      have hanswers := Setting.answers_visit_relieved ht rfl hs hown heffective hnone hcombines hfree
        depth subject
      exact (hanswers s.memory hm violations _ (Prod.ext hrun rfl)).1

/-- A branch that leads by two references to a schema which declares one of two names. Only
violations of other keywords are reported for it. -/
theorem Options.relieves_branches_references :
    let o : Options := { standard .offline with depth := 9 }
    let refer (name : String) : Json.Members := [("$ref", .string ("#/definitions/" ++ name))]
    let declaring (properties : Json.Members) : Json.Members :=
      [("properties", .object properties)]
    let both := declaring [("a", .object []), ("b", .object [])]
    let strings := declaring [("a", .object [("type", .string "string")])]
    let members : Json.Members :=
      [("allOf", .array [.object (refer "first"), .object both]),
        ("definitions",
          .object [("first", .object (refer "second")), ("second", .object strings)])]
    let v := o.assemble (.object members) Validator.defaultBase
    let instance_ : Json := .object [("a", .null), ("b", .null)]
    ∃ violations, (v.violations instance_ .standard).outcome v.memory = .ok violations ∧
      violations.map (·.schemaPath) =
        [[.key "allOf", .index 0, .key "properties", .key "a", .key "type"]] ∧
      ∀ violation ∈ violations, violation.SparesBranches := by
  intro o refer declaring both strings members v instance_
  have hbase : v.setting.resolver.base.Regular := Validator.regular_defaultBase
  have hlawful : v.setting.registry.Lawful := (Registry.preset_ofDraft .draft4).lawful
  have hfirst : ((v.setting.resolver.resolve "#/definitions/first"
      (.ofBase Validator.defaultBase)).run (v.setting.resolver.seed v.schema)).1 =
        .ok ⟨{ Validator.defaultBase with fragment := some "/definitions/first" },
          .object (refer "second")⟩ := by
    rfl
  have hsecond : ((v.setting.resolver.resolve "#/definitions/second"
      (.ofBase { Validator.defaultBase with fragment := some "/definitions/first" })).run
        (v.setting.resolver.seed v.schema)).1 =
          .ok ⟨{ Validator.defaultBase with fragment := some "/definitions/second" },
            .object strings⟩ := by
    rfl
  have hfree : ∀ name ∈ Setting.combinators, ∀ declared, (name, declared) ∈ members →
      ∀ branch ∈ declared.elements,
        v.setting.UnbannedBranch v.schema ⟨Validator.defaultBase, branch⟩ := by
    intro name hname declared hmem branch hbranch
    simp only [members, List.mem_cons, Prod.mk.injEq, List.not_mem_nil, or_false] at hmem
    rcases hmem with ⟨-, rfl⟩ | ⟨rfl, -⟩
    · rcases List.mem_pair.mp hbranch with rfl | rfl
      · refine .of_target ⟨rfl, rfl, hfirst⟩ (by decide) ?_
        refine .of_target ⟨rfl, rfl, hsecond⟩ (by decide) ?_
        exact .of_none rfl (by decide)
      · exact .of_none rfl (by decide)
    · exact absurd hname (by decide)
  have hplaces : ((v.violations instance_ .standard).outcome v.memory).map
      (fun violations => violations.map (·.schemaPath)) =
        .ok [[.key "allOf", .index 0, .key "properties", .key "a", .key "type"]] := by
    decide +kernel
  have hspares := o.relieves_branches rfl (.object members) Validator.defaultBase
    (v.start .standard v.memory) members none none (.ofBase hbase)
    (Validator.Recalls.first.sound hlawful hbase) rfl rfl rfl (List.cons_ne_nil _ _) hfree 9
    (.root instance_)
  cases hrun : (v.violations instance_ .standard).outcome v.memory with
  | error e =>
      rw [hrun] at hplaces
      cases hplaces
  | ok violations =>
      rw [hrun] at hplaces
      exact ⟨violations, rfl, Except.ok.inj hplaces, hspares violations hrun⟩

/-- The branches of a branch are banned again: each of two nested branches reports the name that the
other one declares, although the union around them covers both names. -/
theorem Options.bans_nested_branches :
    let o : Options := { standard .offline with depth := 9 }
    let declaring (properties : Json.Members) : Json := .object [("properties", .object properties)]
    let a := declaring [("a", .object [])]
    let b := declaring [("b", .object [])]
    let both := declaring [("a", .object []), ("b", .object [])]
    let branches := [.object [("allOf", .array [a, b])], both]
    let v := o.assemble (.object [("allOf", .array branches)]) Validator.defaultBase
    let instance_ : Json := .object [("a", .null), ("b", .null)]
    let w : Walker := ⟨v.setting.resolver, true, v.setting.visit 8⟩
    ((Ban.onBranches w true (.root instance_) branches (v.start .standard v.memory)).1.map
        List.isEmpty) = .ok true ∧
      ((v.violations instance_ .standard).outcome v.memory).map
        (fun violations => violations.map fun v => (v.path, v.keyword, v.schemaPath)) =
        .ok [([], some Ban.keyword,
            [.key "allOf", .index 0, .key "allOf", .index 0, .key Ban.keyword]),
          ([], some Ban.keyword,
            [.key "allOf", .index 0, .key "allOf", .index 1, .key Ban.keyword])] := by
  decide +kernel

end SchemaCheck
