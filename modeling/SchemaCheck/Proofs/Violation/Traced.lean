import SchemaCheck.Violation

/-!
Traces of violations. A violation can be traced from a value if it names the failing keyword and its
schema, its location leads from the value to the reported one, and the violations in its context can
be traced from there. The lemmas describe the effect of filling in a violation and of adding a step
in front of its location.
-/

namespace SchemaCheck.Violation

/-- The violation is complete and its location leads from the value to the reported one; likewise
for all violations in its context, from there. -/
inductive Traced : Json → Violation → Prop
  | intro {whole culprit : Json} {v : Violation}
      (keyword : v.keyword.isSome) (declared : v.declared.isSome) (schema : v.schema.isSome)
      (reported : v.culprit = some culprit) (place : v.path.follow? whole = some culprit)
      (context : ∀ c ∈ v.context, Traced culprit c) : Traced whole v

/-- The violation can be traced from the value once it is filled in by its keyword. -/
def Raised (value : Json) (v : Violation) : Prop :=
  ∀ keyword declared schema, Traced value (v.fill keyword declared value schema)

variable {whole part value : Json} {v : Violation}

/-- A traced violation is complete, so that filling it in does not change it. -/
theorem Traced.raised (h : Traced whole v) : Raised whole v := by
  intro keyword declared schema
  obtain ⟨hkeyword, hdeclared, hschema, hreported, hplace, hcontext⟩ := h
  refine .intro ?_ ?_ ?_ ?_ hplace hcontext
  · simp [fill]
  · simp [fill]
  · simp [fill]
  · simp [fill, hreported]

theorem raised_ofMessage (message : String) (value : Json) : Raised value (ofMessage message) :=
  fun _ _ _ => .intro rfl rfl rfl rfl rfl fun _ h => nomatch h

theorem raised_withContext {context : List Violation} (message : String)
    (h : ∀ c ∈ context, Traced value c) : Raised value ((ofMessage message).withContext context) :=
  fun _ _ _ => .intro rfl rfl rfl rfl rfl h

/-- The schema path is not part of the trace. -/
theorem Traced.underSchema (step : Step) (h : Traced whole v) :
    Traced whole (v.underSchema step) := by
  obtain ⟨hkeyword, hdeclared, hschema, hreported, hplace, hcontext⟩ := h
  exact .intro hkeyword hdeclared hschema hreported hplace hcontext

theorem Traced.nested_none (schemaPath : Option Step) (h : Traced whole v) :
    Traced whole (v.nested none schemaPath) := by
  obtain ⟨hkeyword, hdeclared, hschema, hreported, hplace, hcontext⟩ := h
  exact .intro hkeyword hdeclared hschema hreported hplace hcontext

/-- A trace from a part becomes a trace from the whole by adding the step into the part. -/
theorem Traced.nested_some {step : Step} (schemaPath : Option Step)
    (hstep : step.into? whole = some part) (h : Traced part v) :
    Traced whole (v.nested (some step) schemaPath) := by
  obtain ⟨hkeyword, hdeclared, hschema, hreported, hplace, hcontext⟩ := h
  refine .intro hkeyword hdeclared hschema hreported ?_ hcontext
  simp [nested, hstep, hplace]

end SchemaCheck.Violation
