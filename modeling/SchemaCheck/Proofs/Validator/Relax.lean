import SchemaCheck.Proofs.Validator.Circle
import SchemaCheck.Proofs.Visit.Relax

/-!
The ban only makes a schema stricter: what is valid with it is valid without it, as long as no
schema is negated.
-/

namespace SchemaCheck

/-- No negation can be reached if no document that can be loaded contains one. -/
theorem Setting.unnegated_of_documents {t : Setting} {root : Json} (urls : List Url)
    (hfetcher : ∀ u bytes, t.resolver.fetcher u = .ok bytes → u ∈ urls)
    (hfree : ∀ part, Json.PartOf part (t.resolver.horizon root urls).library →
      ∀ name ∈ Keyword.negations, part.get? name = none) : t.Unnegated root :=
  fun _ _ hreach => hreach.of_documents urls hfetcher (fun members => hfree (.object members))
    fun _ => by simp [Keyword.negations, Json.get?, Json.Members.find?]

/-- If no negation can be reached, a validation that has a result with the ban on also has one with
the ban off, and if the former has no violations, neither has the latter. Both validations may have
any history. -/
theorem Options.passes_without_ban (o : Options) (hvocabulary : o.registry = none) (schema : Json)
    (base : Url) (hbase : base.Regular)
    (hfree : (o.assemble schema base).setting.Unnegated schema) (instance_ : Json) :
    let v := o.assemble schema base
    ∀ m n, v.Recalls m → v.Recalls n →
      ∀ violations, (v.violations instance_ .standard).outcome m = .ok violations →
        ∃ others, (v.violations instance_ .permissive).outcome n = .ok others ∧
          (violations = [] → others = []) := by
  intro v m n hm hn violations hrun
  have ht : v.setting.registry = .ofDraft o.draft := registry_assemble hvocabulary schema base
  have hlawful := Setting.lawful_ofDraft ht
  let s := v.start .standard v.memory
  have hrelaxes := Setting.relaxes_visit (s := s) ht hfree (.ofBase hbase) .root v.depth
    (.root instance_) none
  obtain ⟨others, _, _, hclears, -, -, -, hpermissive⟩ := hrelaxes m n (hm.sound hlawful hbase)
    (hn.sound hlawful hbase) violations _ (Prod.ext hrun rfl)
  exact ⟨others, congrArg Prod.fst hpermissive, hclears⟩

/-- Two branches that declare one name each, one of them by a reference to an `anyOf` and the other
one below a flag of its own. An instance with both names is valid with the ban on and with the ban
off. -/
theorem Options.passes_without_ban_branches :
    let o : Options := { standard .offline with depth := 9 }
    let declaring (name : String) (declared : Json) : Json :=
      .object [("properties", .object [(name, declared)])]
    let text : Json :=
      .object [("anyOf", .array [.object [("type", .string "null")],
        .object [("type", .string "string")]])]
    let flagged : Json :=
      .object [(Ban.keyword, .bool true), ("properties", .object [("c", .object [])])]
    let schema : Json :=
      .object [("definitions", .object [("text", text)]),
        ("allOf", .array [declaring "a" (.object [("$ref", .string "#/definitions/text")]),
          declaring "b" flagged])]
    let v := o.assemble schema Validator.defaultBase
    let instance_ : Json := .object [("a", .string "x"), ("b", .object [("c", .null)])]
    ((v.violations instance_ .standard).outcome v.memory).map List.length = .ok 0 ∧
      (v.violations instance_ .permissive).outcome v.memory = .ok [] := by
  intro o declaring text flagged schema v instance_
  have hstrict : ((v.violations instance_ .standard).outcome v.memory).map List.length = .ok 0 := by
    decide +kernel
  have hfree : v.setting.Unnegated schema := by
    refine Setting.unnegated_of_documents []
      (fun u bytes h => absurd h (Fetcher.offline_ne_ok u bytes)) fun part hpart name hname => ?_
    have hall : (v.setting.resolver.horizon schema []).library.parts.all fun part =>
        Keyword.negations.all fun name => (part.get? name).isNone := by decide
    exact Option.isNone_iff_eq_none.mp
      (List.all_eq_true.mp (List.all_eq_true.mp hall part hpart.mem_parts) name hname)
  refine ⟨hstrict, ?_⟩
  obtain ⟨violations, hrun, hlength⟩ : ∃ violations,
      (v.violations instance_ .standard).outcome v.memory = .ok violations ∧
        violations.length = 0 := by
    cases hrun : (v.violations instance_ .standard).outcome v.memory with
    | error e =>
        rw [hrun] at hstrict
        cases hstrict
    | ok violations =>
        rw [hrun] at hstrict
        exact ⟨violations, rfl, Except.ok.inj hstrict⟩
  obtain ⟨others, hothers, hclears⟩ := o.passes_without_ban rfl schema Validator.defaultBase
    Validator.regular_defaultBase hfree instance_ v.memory v.memory .first .first violations hrun
  rw [hothers, hclears (List.length_eq_zero_iff.mp hlength)]

/-- With a negation the verdict changes: the negated schema rejects the instance with the ban on and
accepts it with the ban off. -/
example :
    let o : Options := { Options.standard .offline with depth := 9 }
    let closed : Json := .object [("items", .object [("properties", .object [])])]
    let v := o.assemble (.object [("not", closed)]) Validator.defaultBase
    let instance_ : Json := .array [.object [("a", .null)]]
    (v.isValid instance_ .standard).outcome v.memory = .ok true ∧
      (v.isValid instance_ .permissive).outcome v.memory = .ok false := by
  decide +kernel

end SchemaCheck
