import SchemaCheck.Proofs.Keyword.Rank
import SchemaCheck.Proofs.Violation.Cited

/-!
Locations in the schemas of the third draft. If there are no references, the schema path of a
violation leads to the declared value that the instance does not meet; for a missing property this
is the flag in its schema that requires it. The schema paths in the context of a `type` start from
the list of types, which is the declared value if that is a list and otherwise the list with that
value as its only element.
-/

namespace SchemaCheck

open Walk Violation

namespace Violation

/-- The schema path of the violation ends with its keyword and leads to the value declared for it;
likewise for all violations in its context, from the list of types that the value stands for. The
ban is an exception, which can be in force at a node that does not declare it. -/
inductive Locates : Json → Violation → Prop
  | keyword {whole declared : Json} {name : String} {place : Location} {v : Violation}
      (named : v.keyword = some name) (path : v.schemaPath = place ++ [.key name])
      (value : v.schemaPath.follow? whole = some declared) (reported : v.declared = some declared)
      (context : ∀ c ∈ v.context, Locates (.array (Keyword.Draft3.members declared)) c) :
      Locates whole v
  | ban {whole : Json} {members : Json.Members} {place : Location} {v : Violation}
      (named : v.keyword = some Ban.keyword) (path : v.schemaPath = place ++ [.key Ban.keyword])
      (node : place.follow? whole = some (.object members)) : Locates whole v

/-- With the keyword filled in and as its first step, the violation is located in every schema that
declares the value for the keyword. -/
def Locatable (declared : Json) (v : Violation) : Prop :=
  ∀ name members culprit, Json.Members.find? name members = some declared →
    Locates (.object members)
      ((v.fill name declared culprit (.object members)).underSchema (.key name))

variable {whole part declared : Json} {v : Violation}

/-- A violation that is located in a part of a schema is located in the whole, with the step to the
part in front. -/
theorem Locates.nested {place : Option Step} (path : Option Step)
    (hplace : Location.follow? place.toList whole = some part) (h : Locates part v) :
    Locates whole (v.nested path place) := by
  have hthrough (l : Location) : Location.follow? (place.toList ++ l) whole = l.follow? part := by
    rw [Location.follow?_append, hplace, Option.bind_some]
  cases h with
  | @keyword _ _ name inner _ hnamed hpath hvalue hreported hcontext =>
      have hnested : (v.nested path place).schemaPath = (place.toList ++ inner) ++ [.key name] := by
        simp [Violation.nested, hpath]
      exact .keyword hnamed hnested ((hthrough _).trans hvalue) hreported hcontext
  | ban hnamed hpath hnode =>
      refine .ban hnamed ?_ ((hthrough _).trans hnode)
      simp [Violation.nested, hpath]

/-- A located violation is complete except for the schema, so that filling it in does not change the
rest. -/
theorem Locates.fill (h : Locates whole v) (name : String) (declared culprit schema : Json) :
    Locates whole (v.fill name declared culprit schema) := by
  cases h with
  | keyword hnamed hpath hvalue hreported hcontext =>
      refine .keyword ?_ hpath hvalue ?_ hcontext
      · simp [Violation.fill, hnamed]
      · simp [Violation.fill, hreported]
  | ban hnamed hpath hnode => exact .ban (by simp [Violation.fill, hnamed]) hpath hnode

theorem Locates.locatable (h : Locates declared v) : Locatable declared v := by
  intro name members culprit hfind
  rw [underSchema_eq_nested]
  exact (h.fill ..).nested none (by simp [Step.into?, hfind])

theorem locatable_withContext {context : List Violation} (message : String)
    (h : ∀ c ∈ context, Locates (.array (Keyword.Draft3.members declared)) c) :
    Locatable declared ((ofMessage message).withContext context) := by
  intro name members culprit hfind
  refine @Locates.keyword _ declared name [] _ rfl rfl ?_ rfl h
  simp [underSchema, Violation.fill, withContext, ofMessage, Step.into?, hfind]

theorem locatable_ofMessage (message : String) (declared : Json) :
    Locatable declared (ofMessage message) :=
  locatable_withContext message fun _ hc => nomatch hc

/-- A missing property is located at the flag in its schema that requires it. -/
theorem locates_missing {name : String} {schema : Json} (hord : declared.Ordered)
    (hoffers : declared.Offers (some (.key name)) schema)
    (h : v ∈ Keyword.Draft3.missing name schema) : Locates declared v := by
  unfold Keyword.Draft3.missing at h
  split at h
  next hget =>
    obtain rfl := List.mem_singleton.mp h
    refine @Locates.keyword _ (.bool true) "required" [.key name] _ rfl rfl ?_ rfl
      fun _ hc => nomatch hc
    have hrequired : Location.follow? [.key "required"] schema = some (.bool true) := by
      rw [Location.follow?_singleton]
      cases schema with
      | object members => exact hget
      | _ => cases hget
    have hproperty : Location.follow? [.key name] declared = some schema := hoffers.follow? hord
    show Location.follow? ([.key name] ++ [.key "required"]) declared = some (.bool true)
    rw [Location.follow?_append, hproperty, Option.bind_some, hrequired]
  next => cases h

theorem Locates.ban_here {members : Json.Members} (named : v.keyword = some Ban.keyword)
    (path : v.schemaPath = [.key Ban.keyword]) : Locates (.object members) v :=
  @Locates.ban _ members [] v named path rfl

end Violation

/-- The passage of located violations: from a schema in a declared value to that value. -/
def Passage.locating : Passage where
  applied _ schema v := schema.Ordered → schema.Unreferring → Locates schema v
  lifted _ declared v := declared.Ordered → declared.Unreferring → Locates declared v
  raised _ declared v := declared.Ordered → declared.Unreferring → Locatable declared v
  lift _ _ _ _ _ hoffers h hord hfree :=
    (h (hord.part hoffers.part) (hfree.part hoffers.part)).nested none (hoffers.follow? hord)
  message _ declared text _ _ := locatable_ofMessage text declared
  context _ _ text _ h hord hfree := locatable_withContext text fun c hc => h c hc hord hfree
  inside _ step _ _ _ _ _ _ hoffers h hord hfree :=
    ((h (hord.part hoffers.part) (hfree.part hoffers.part)).nested (some step)
      (hoffers.follow? hord)).locatable

/-- The list of types is ordered and contains no references if the declared value is ordered and
contains none. -/
theorem Keyword.Draft3.part_of_types {declared inner : Json}
    (h : Json.PartOf inner (.array (members declared))) :
    inner = .array (members declared) ∨ Json.PartOf inner declared := by
  cases h with
  | whole => exact .inl rfl
  | item hmem hpart => exact .inr (hpart.trans (Keyword.part_of_mem_members hmem))

theorem Passage.third_locating : Passage.locating.Third where
  types _ declared text _ h hord hfree := by
    refine locatable_withContext text fun c hc => h c hc ?_ ?_
    · intro members hpart
      rcases Keyword.Draft3.part_of_types hpart with heq | hpart
      · cases heq
      · exact hord members hpart
    · intro inner hpart reference
      rcases Keyword.Draft3.part_of_types hpart with rfl | hpart
      · exact nofun
      · exact hfree inner hpart reference
  missing _ _ _ _ hoffers _ hv hord _ := (locates_missing hord hoffers hv).locatable

theorem Passage.nodes_locating : Passage.locating.Nodes where
  through _ _ _ h hord hfree := (h hord hfree).locatable
  keyword _ _ _ _ _ hmem _ h hord hfree :=
    h (hord.part (.of_mem_members hmem)) (hfree.part (.of_mem_members hmem)) _ _ _
      (Json.Members.find?_of_mem hord.ascending hmem)
  ban _ _ _ _ _ _ _ := .ban_here rfl rfl
  reference _ _ _ _ _ hfind _ _ hfree := absurd hfind (hfree _ .whole _)

/-- All violations that a validator of the third draft reports for a schema without references are
located in the schema: their schema paths lead to the declared values that the instance does not
meet. -/
theorem Options.locates_violations (o : Options) (hdraft : o.draft = .draft3)
    (hvocabulary : o.registry = none) (schema : Json) (base : Url) (hordered : schema.Ordered)
    (hfree : schema.Unreferring) (instance_ : Json) (config : Config) (memory : Memory)
    (vs : List Violation)
    (hreport : ((o.assemble schema base).violations instance_ config).outcome memory = .ok vs) :
    ∀ v ∈ vs, v.Locates schema := by
  have ht : (o.assemble schema base).setting.registry = .ofDraft .draft3 := by
    simp [assemble, hvocabulary, hdraft]
  intro v hv
  exact Setting.lists_visit ht Passage.nodes_locating (fun _ => Passage.third_locating) _ _ _ _ _ _
    hreport v hv hordered hfree

/-- A value of a wrong type in a dependency and a missing property, both through a list of bases. -/
theorem Options.locates_violations_bases :
    let o : Options := { standard .offline with draft := .draft3, depth := 9 }
    let strings : Json := .object [("type", .string "string")]
    let depending : Json :=
      .object [("dependencies", .object [("b", .object [("type", .array [strings])])])]
    let requiring : Json :=
      .object [("properties", .object [("a", .object [("required", .bool true)])])]
    let schema : Json := .object [("extends", .array [depending, requiring])]
    let instance_ : Json := .object [("b", .null)]
    ∃ vs, ((o.assemble schema Validator.defaultBase).violations instance_ .permissive).outcome
        ⟨⟨[], [], []⟩, []⟩ = .ok vs ∧
      vs.map (fun v => (v.schemaPath.dotted, v.context.map (·.schemaPath.dotted))) =
        [("extends.0.dependencies.b.type", ["0.type"]), ("extends.1.properties.a.required", [])] ∧
      ∀ v ∈ vs, v.Locates schema := by
  intro o strings depending requiring schema instance_
  have hstrings : strings.Ordered := .single fun _ h => nomatch h
  have htypes : (Json.array [strings]).Ordered := .of_items fun j hj => by
    rw [List.mem_singleton.mp hj]
    exact hstrings
  have hflag : (Json.bool true).Ordered := fun _ h => nomatch h
  have hbases : (Json.array [depending, requiring]).Ordered := by
    refine .of_items fun j hj => ?_
    rcases List.mem_pair.mp hj with rfl | rfl
    · exact htypes.single.single.single
    · exact hflag.single.single.single
  have hfree : schema.Unreferring := by
    have hall : schema.parts.all fun part => (part.get? Setting.refKeyword).isNone := by decide
    intro part hpart reference hreference
    have hnone := List.all_eq_true.mp hall part hpart.mem_parts
    rw [hreference] at hnone
    cases hnone
  refine ⟨_, rfl, by decide +kernel, ?_⟩
  exact o.locates_violations rfl rfl schema _ hbases.single hfree instance_ .permissive _ _ rfl

/-- For a single type, the schema paths in the context start from the list of that type. From the
declared value they lead nowhere. -/
theorem Options.lone_type_misplaced :
    let o : Options := { standard .offline with draft := .draft3, depth := 9 }
    let declared : Json := .object [("type", .string "string")]
    let schema : Json := .object [("type", declared)]
    ∃ v c, ((o.assemble schema Validator.defaultBase).violations .null .standard).outcome
        ⟨⟨[], [], []⟩, []⟩ = .ok [v] ∧ v.context = [c] ∧
      v.keyword = some "type" ∧ v.schemaPath.follow? schema = some declared ∧
      c.keyword = some "type" ∧ c.declared = some (.string "string") ∧
      c.schemaPath.follow? declared = none ∧
      c.schemaPath.follow? (.array [declared]) = c.declared :=
  ⟨_, _, rfl, rfl, rfl, rfl, rfl, rfl, rfl, rfl⟩

end SchemaCheck
