import SchemaCheck.Proofs.Validator.History
import SchemaCheck.Proofs.Violation.Node

/-!
Locations in the schema. If there are no references, the schema path of a violation leads to the
declared value that the instance does not meet, through the node that declares it, and the schema
paths in the context lead on from that value.
-/

namespace SchemaCheck

open Walk Violation

/-- No object in the value is a reference. -/
def Json.Unreferring (j : Json) : Prop :=
  ∀ part, Json.PartOf part j → ∀ reference, part.get? Setting.refKeyword ≠ some (.string reference)

theorem Json.Unreferring.part {i j : Json} (h : j.Unreferring) (hpart : Json.PartOf i j) :
    i.Unreferring :=
  fun inner hinner => h inner (hinner.trans hpart)

theorem Location.follow?_singleton (step : Step) (j : Json) : follow? [step] j = step.into? j := by
  rw [follow?_cons]
  cases step.into? j <;> rfl

namespace Json.Offers

variable {declared schema : Json} {place : Option Step}

theorem part (h : declared.Offers place schema) : Json.PartOf schema declared := by
  cases h with
  | whole => exact .whole
  | member hobject hmem =>
      subst hobject
      exact .of_mem_members hmem
  | item harray hget =>
      subst harray
      exact .of_mem_items (List.mem_of_getElem? hget)

/-- A schema is found at its place. -/
theorem follow? (h : declared.Offers place schema) (hord : declared.Ordered) :
    Location.follow? place.toList declared = some schema := by
  cases h with
  | whole => rfl
  | member hobject hmem =>
      subst hobject
      exact (Location.follow?_singleton ..).trans (hord.into?_key hmem)
  | item harray hget =>
      subst harray
      exact (Location.follow?_singleton ..).trans hget

end Json.Offers

namespace Violation

/-- The schema path of the violation ends with its keyword and leads to the value declared for
it, and without its last step to the node that declares it; likewise for all violations in its
context, from that value. The ban is an exception, which can be in force at a node that does not
declare it. -/
inductive Cites : Json → Violation → Prop
  | keyword {whole declared : Json} {members : Json.Members} {name : String} {place : Location}
      {v : Violation} (named : v.keyword = some name) (path : v.schemaPath = place ++ [.key name])
      (node : place.follow? whole = some (.object members))
      (schema : v.schema = some (.object members))
      (value : v.schemaPath.follow? whole = some declared) (reported : v.declared = some declared)
      (context : ∀ c ∈ v.context, Cites declared c) : Cites whole v
  | ban {whole : Json} {members : Json.Members} {place : Location} {v : Violation}
      (named : v.keyword = some Ban.keyword) (path : v.schemaPath = place ++ [.key Ban.keyword])
      (node : place.follow? whole = some (.object members)) : Cites whole v

/-- With the keyword filled in and as its first step, the violation cites every schema that declares
the value for the keyword. -/
def Citable (declared : Json) (v : Violation) : Prop :=
  ∀ name members culprit, Json.Members.find? name members = some declared →
    Cites (.object members)
      ((v.fill name declared culprit (.object members)).underSchema (.key name))

variable {whole part declared : Json} {v : Violation}

/-- A violation that cites a part of a schema cites the whole, with the step to the part in
front. -/
theorem Cites.nested {place : Option Step} (path : Option Step)
    (hplace : Location.follow? place.toList whole = some part) (h : Cites part v) :
    Cites whole (v.nested path place) := by
  have hthrough (l : Location) : Location.follow? (place.toList ++ l) whole = l.follow? part := by
    rw [Location.follow?_append, hplace, Option.bind_some]
  cases h with
  | keyword hnamed hpath hnode hschema hvalue hreported hcontext =>
      refine .keyword hnamed ?_ ((hthrough _).trans hnode) hschema ((hthrough _).trans hvalue)
        hreported hcontext
      simp [Violation.nested, hpath]
  | ban hnamed hpath hnode =>
      refine .ban hnamed ?_ ((hthrough _).trans hnode)
      simp [Violation.nested, hpath]

theorem underSchema_eq_nested (step : Step) (v : Violation) :
    v.underSchema step = v.nested none (some step) := by
  cases v
  rfl

/-- A violation that cites a schema is complete, so that filling it in does not change it. -/
theorem Cites.fill (h : Cites whole v) (name : String) (declared culprit schema : Json) :
    Cites whole (v.fill name declared culprit schema) := by
  cases h with
  | keyword hnamed hpath hnode hschema hvalue hreported hcontext =>
      refine .keyword ?_ hpath hnode ?_ hvalue ?_ hcontext
      · simp [Violation.fill, hnamed]
      · simp [Violation.fill, hschema]
      · simp [Violation.fill, hreported]
  | ban hnamed hpath hnode => exact .ban (by simp [Violation.fill, hnamed]) hpath hnode

theorem Cites.citable (h : Cites declared v) : Citable declared v := by
  intro name members culprit hfind
  rw [underSchema_eq_nested]
  exact (h.fill ..).nested none (by simp [Step.into?, hfind])

theorem citable_withContext {context : List Violation} (message : String)
    (h : ∀ c ∈ context, Cites declared c) :
    Citable declared ((ofMessage message).withContext context) := by
  intro name members culprit hfind
  refine @Cites.keyword _ declared members name [] _ rfl rfl rfl rfl ?_ rfl h
  simp [underSchema, Violation.fill, withContext, ofMessage, Step.into?, hfind]

theorem citable_ofMessage (message : String) (declared : Json) :
    Citable declared (ofMessage message) :=
  citable_withContext message fun _ hc => nomatch hc

theorem Cites.ban_here {members : Json.Members} (named : v.keyword = some Ban.keyword)
    (path : v.schemaPath = [.key Ban.keyword]) : Cites (.object members) v :=
  @Cites.ban _ members [] v named path rfl

end Violation

/-- The passage of citing violations: from a schema in a declared value to that value, and from
there to the node. -/
def Passage.citing : Passage where
  applied _ schema v := schema.Ordered → schema.Unreferring → Cites schema v
  lifted _ declared v := declared.Ordered → declared.Unreferring → Cites declared v
  raised _ declared v := declared.Ordered → declared.Unreferring → Citable declared v
  lift _ _ _ _ _ hoffers h hord hfree :=
    (h (hord.part hoffers.part) (hfree.part hoffers.part)).nested none (hoffers.follow? hord)
  message _ declared text _ _ := citable_ofMessage text declared
  context _ _ text _ h hord hfree := citable_withContext text fun c hc => h c hc hord hfree
  inside _ step _ _ _ _ _ _ hoffers h hord hfree :=
    ((h (hord.part hoffers.part) (hfree.part hoffers.part)).nested (some step)
      (hoffers.follow? hord)).citable

theorem Passage.nodes_citing : Passage.citing.Nodes where
  through _ _ _ h hord hfree := (h hord hfree).citable
  keyword _ _ _ _ _ hmem _ h hord hfree :=
    h (hord.part (.of_mem_members hmem)) (hfree.part (.of_mem_members hmem)) _ _ _
      (Json.Members.find?_of_mem hord.ascending hmem)
  ban _ _ _ _ _ _ _ := .ban_here rfl rfl
  reference _ _ _ _ _ hfind _ _ hfree := absurd hfind (hfree _ .whole _)

/-- All violations that a validator of the fourth draft reports for a schema without references cite
the schema: their schema paths lead to the declared values that the instance does not meet. -/
theorem Options.cites_violations (o : Options) (hdraft : o.draft = .draft4)
    (hvocabulary : o.registry = none) (schema : Json) (base : Url) (hordered : schema.Ordered)
    (hfree : schema.Unreferring) (instance_ : Json) (config : Config) (memory : Memory)
    (vs : List Violation)
    (hreport : ((o.assemble schema base).violations instance_ config).outcome memory = .ok vs) :
    ∀ v ∈ vs, v.Cites schema := by
  have ht : (o.assemble schema base).setting.registry = .ofDraft .draft4 := by
    simp [assemble, hvocabulary, hdraft]
  intro v hv
  exact Setting.lists_visit ht Passage.nodes_citing nofun _ _ _ _ _ _ hreport v hv hordered hfree

/-- A member `a` that no branch of an `anyOf` accepts, where one of the branches checks its
elements, and a member `b` that is not declared. -/
theorem Options.cites_violations_branches :
    let o : Options := { standard .offline with depth := 9 }
    let strings : Json := .object [("type", .string "string")]
    let lists : Json := .object [("items", strings)]
    let schema : Json :=
      .object [("properties", .object [("a", .object [("anyOf", .array [strings, lists])])])]
    let instance_ : Json := .object [("a", .array [.null]), ("b", .null)]
    ∃ vs, ((o.assemble schema Validator.defaultBase).violations instance_ .standard).outcome
        ⟨⟨[], [], []⟩, []⟩ = .ok vs ∧
      vs.map (fun v => (v.schemaPath.dotted, v.context.map (·.schemaPath.dotted))) =
        [("banUnknownProperties", []), ("properties.a.anyOf", ["0.type", "1.items.type"])] ∧
      ∀ v ∈ vs, v.Cites schema := by
  intro o strings lists schema instance_
  have hstrings : strings.Ordered := .single fun _ h => nomatch h
  have hbranches : (Json.array [strings, lists]).Ordered := by
    refine .of_items fun j hj => ?_
    rcases List.mem_pair.mp hj with rfl | rfl
    · exact hstrings
    · exact hstrings.single
  have hordered : schema.Ordered := hbranches.single.single.single
  have hfree : schema.Unreferring := by
    have hall : schema.parts.all fun part => (part.get? Setting.refKeyword).isNone := by decide
    intro part hpart reference hreference
    have hnone := List.all_eq_true.mp hall part hpart.mem_parts
    rw [hreference] at hnone
    cases hnone
  refine ⟨_, rfl, by decide +kernel, ?_⟩
  exact o.cites_violations rfl rfl schema _ hordered hfree instance_ .standard _ _ rfl

end SchemaCheck
