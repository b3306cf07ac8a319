import SchemaCheck.Proofs.Validator.History
import SchemaCheck.Proofs.Violation.Node
import SchemaCheck.Proofs.Violation.Traced

/-!
The origin of violations. Every violation that a validation reports is complete and its location
leads to the reported value, and the same holds for the violations in its context, starting from
that value.
-/

namespace SchemaCheck

open Walk Violation

/-- A part of the subject is found by the step to it. -/
theorem Subject.Near.into? {subject : Subject} {step : Step} {value : Json}
    (h : subject.Near (subject.child step value)) (hord : subject.value.Ordered) :
    step.into? subject.value = some value := by
  generalize hchild : subject.child step value = inner at h
  have hvalue : value = inner.value := congrArg Subject.value hchild
  have hplace : subject.place ++ [step] = inner.place := congrArg Subject.place hchild
  cases h with
  | here => simp at hplace
  | member hobject hmem =>
      obtain rfl : step = .key _ := List.singleton_inj.mp (List.append_cancel_left hplace)
      rw [hvalue]
      rw [hobject] at hord ⊢
      exact hord.into?_key hmem
  | item hitems hget =>
      obtain rfl : step = .index _ := List.singleton_inj.mp (List.append_cancel_left hplace)
      rw [hvalue, hitems]
      exact hget

/-- The passage of traced violations: from a part to the whole, with the step into the part in
front. -/
def Passage.tracing : Passage where
  applied subject _ v := subject.value.Ordered → Traced subject.value v
  lifted subject _ v := subject.value.Ordered → Traced subject.value v
  raised subject _ v := subject.value.Ordered → Raised subject.value v
  lift _ _ place _ _ _ h hord := (h hord).nested_none place
  message subject _ text _ := raised_ofMessage text subject.value
  context _ _ text _ h hord := raised_withContext text fun v hv => h v hv hord
  inside _ _ _ _ place _ _ hnear _ h hord :=
    ((h (hord.part hnear.part)).nested_some place (hnear.into? hord)).raised

theorem Passage.third_tracing : Passage.tracing.Third where
  types _ _ text _ h hord := raised_withContext text fun v hv => h v hv hord
  missing _ _ name schema _ v hv := by
    unfold Keyword.Draft3.missing at hv
    split at hv
    · rw [List.mem_singleton.mp hv]
      exact fun _ _ _ _ => .intro rfl rfl rfl rfl rfl fun _ hc => nomatch hc
    · exact nomatch hv

theorem Passage.nodes_tracing : Passage.tracing.Nodes where
  through _ _ _ h hord := (h hord).raised
  keyword _ _ _ _ _ _ _ h hord := (h hord _ _ _).underSchema _
  ban subject _ text _ _ _ := (raised_ofMessage text subject.value _ _ _).underSchema _
  reference _ _ _ _ _ _ h hord := (h hord).raised _ _ _

/-- All violations that a validator of either draft reports can be traced from the instance: they
name the failing keyword and its schema, their locations lead to the reported values, and the
violations in their contexts can be traced from there. -/
theorem Options.traced_violations (o : Options) (hvocabulary : o.registry = none)
    (schema : Json) (base : Url) (instance_ : Json) (hordered : instance_.Ordered)
    (config : Config) (memory : Memory) (vs : List Violation)
    (hreport : ((o.assemble schema base).violations instance_ config).outcome memory = .ok vs) :
    ∀ v ∈ vs, v.Traced instance_ := by
  have ht : (o.assemble schema base).setting.registry = .ofDraft o.draft := by
    simp [assemble, hvocabulary]
  intro v hv
  exact Setting.lists_visit ht Passage.nodes_tracing (fun _ => Passage.third_tracing) _ _ _ _ _ _ hreport v hv
    hordered

/-- A member `a` of neither of its types, the first of which requires a member `b`. The violation of
this type is in the context and reports the value of `a`. -/
theorem Options.traced_violations_missing :
    let o : Options := { standard .offline with draft := .draft3, depth := 9 }
    let wanted : Json := .object [("properties", .object [("b", .object [("required", .bool true)])])]
    let schema : Json :=
      .object [("properties", .object [("a", .object [("type", .array [wanted, .string "string"])])])]
    let instance_ : Json := .object [("a", .object [])]
    ∃ vs, ((o.assemble schema Validator.defaultBase).violations instance_ .permissive).outcome
        ⟨⟨[], [], []⟩, []⟩ = .ok vs ∧
      vs.map (fun v => (v.path, v.context.map (·.message))) =
        [([.key "a"], ["'b' is a required property"])] ∧
      ∀ v ∈ vs, v.Traced instance_ := by
  intro o wanted schema instance_
  have hordered : instance_.Ordered := .single .empty
  refine ⟨_, rfl, rfl, ?_⟩
  exact o.traced_violations rfl schema _ instance_ hordered .permissive _ _ rfl

end SchemaCheck
