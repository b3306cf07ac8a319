import SchemaCheck.Proofs.Validator.Independence
import SchemaCheck.Proofs.Visit.Annotation

/-!
Members without a keyword are annotations: they do not change the verdict of a validator. An
exception is a list of branches under the ban, in a draft without a keyword for it.
-/

namespace SchemaCheck

open Walk

/-- Adding a member whose name has no keyword in the draft does not change whether an instance is
valid, invalid or cannot be validated, nor the failure in the last case. The two validators may each
have any history of calls. The schema has no references, the name is none of the few that the walk
itself reads, and it does not declare branches while the ban is in force. -/
theorem Options.passes_over_annotation (o : Options) (hvocabulary : o.registry = none) (base : Url)
    (members : Json.Members) (hfree : (Json.object members).ReferenceFree) (name : String)
    (declared : Json) (hunknown : (Registry.ofDraft o.draft).contains name = false)
    (hbeside : name ∉ Setting.readBeside) (config : Config)
    (hunion : name ∈ Setting.combinators → (∀ branch more, declared ≠ .array (branch :: more)) ∨
      Setting.effectiveBan members none config.bansUnknown = false) (instance_ : Json) :
    let v := o.assemble (.object (members.insert name declared)) base
    let u := o.assemble (.object (members.erase name)) base
    ∀ m n, v.Recalls m → u.Recalls n →
      (v.isValid instance_ config).outcome m = (u.isValid instance_ config).outcome n := by
  intro v u m n hm hn
  have ht : v.setting.registry = .ofDraft o.draft := registry_assemble hvocabulary _ base
  have hunread : v.setting.Unread name :=
    ⟨by rw [ht]; simpa [Registry.contains] using hunknown, hbeside⟩
  have hcompiled : m.Compiled ∧ n.Compiled :=
    ⟨hm.learnt ht (Memory.learning_compiled _) (List.forall_mem_nil _),
      hn.learnt ht (Memory.learning_compiled _) (List.forall_mem_nil _)⟩
  let s := v.start config m
  have hban : Setting.ownBan (members.insert name declared) = Setting.ownBan members := by
    have hne := hunread.ne_of_lookup? (Setting.lookup?_ban ht)
    rw [Setting.ownBan, Json.Members.find?_insert_of_ne hne, Setting.ownBan]
  have hbranches : name ∈ Setting.combinators →
      Setting.branchesOf (members.insert name declared) name = none ∨
        Setting.effectiveBan (members.insert name declared) none s.frame.ban = false := fun hname =>
    (hunion hname).imp (Setting.branchesOf_eq_none (Json.Members.find?_insert ..))
      fun hoff => by rwa [Setting.effectiveBan, hban]
  have hagreed := hunread.agreed_visit ht v.depth (.root instance_) (members.insert name declared)
    none s hbranches
  rw [Json.Members.erase_insert] at hagreed
  have hmeets := Setting.linked_visit_of_referenceFree ht (hfree.erase name) v.depth (.root instance_)
    none s m n hcompiled
  rw [Validator.outcome_isValid, Validator.outcome_isValid]
  refine hagreed.isEmpty.trans ?_
  obtain ⟨hsame, -⟩ | ⟨_, _, hleft⟩ | ⟨_, _, hright⟩ := hmeets.result
  · exact congrArg (·.map List.isEmpty) hsame
  · exact hleft.elim
  · exact hright.elim

/-- The third draft has no keyword `not`: a member that would reject everything in the fourth draft
is ignored. -/
theorem Options.passes_over_annotation_not :
    let o : Options := { standard .offline with draft := .draft3, depth := 9 }
    let members : Json.Members := [("properties", .object [("a", .object [])])]
    let v := o.assemble (.object (members.insert "not" (.object []))) Validator.defaultBase
    let u := o.assemble (.object (members.erase "not")) Validator.defaultBase
    let instance_ : Json := .object [("a", .null)]
    (v.isValid instance_ .standard).outcome v.memory = .ok true ∧
      (v.isValid instance_ .standard).outcome v.memory =
        (u.isValid instance_ .standard).outcome u.memory := by
  intro o members v u instance_
  have hfree : (Json.object members).ReferenceFree := by
    have hall : (Json.object members).parts.all fun part =>
      (part.get? Setting.refKeyword).isNone := by decide
    exact fun part hpart => Option.isNone_iff_eq_none.mp (List.all_eq_true.mp hall part hpart.mem_parts)
  exact ⟨by decide +kernel, o.passes_over_annotation rfl Validator.defaultBase members hfree "not"
    (.object []) (by decide) (by decide) .standard (fun h => absurd h (by decide)) instance_
    v.memory u.memory .first .first⟩

/-- The third draft has no keyword `allOf`, but under the ban its branches are read as the
declarations of the schema. -/
theorem Options.heeds_unknown_branches :
    let o : Options := { standard .offline with draft := .draft3, depth := 9 }
    let members : Json.Members := [("properties", .object [("a", .object [])])]
    let branch : Json := .object [("properties", .object [("b", .object [])])]
    let v := o.assemble (.object (members.insert "allOf" (.array [branch]))) Validator.defaultBase
    let u := o.assemble (.object (members.erase "allOf")) Validator.defaultBase
    let instance_ : Json := .object [("a", .null)]
    (Registry.ofDraft o.draft).contains "allOf" = false ∧
      (v.isValid instance_ .standard).outcome v.memory = .ok false ∧
      (u.isValid instance_ .standard).outcome u.memory = .ok true := by
  decide +kernel

end SchemaCheck
