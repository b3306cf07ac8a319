import SchemaCheck.Proofs.Walk.Result
import SchemaCheck.Visit

/-!
Outlines of violations: the failing keyword, the reported value, both locations, and the outlines of
the context. Messages and quoted schemas are left out.
-/

namespace SchemaCheck

open Walk

structure Outline where
  keyword : Option String
  culprit : Option Json
  schemaPath : Location
  path : Location
  context : List Outline

namespace Violation

mutual

def outline : Violation → Outline
  | ⟨_, keyword, _, culprit, _, schemaPath, path, context⟩ =>
    ⟨keyword, culprit, schemaPath, path, outlines context⟩

def outlines : List Violation → List Outline
  | [] => []
  | v :: rest => v.outline :: outlines rest

end

theorem outlines_eq_map (vs : List Violation) : outlines vs = vs.map outline := by
  induction vs with
  | nil => rfl
  | cons v rest ih => rw [outlines, ih, List.map_cons]

/-- The same violations up to messages and quoted schemas. -/
def Same (vs ws : List Violation) : Prop :=
  vs.map outline = ws.map outline

variable {v w : Violation} {vs ws : List Violation}

theorem outline_eq_iff : v.outline = w.outline ↔
    v.keyword = w.keyword ∧ v.culprit = w.culprit ∧ v.schemaPath = w.schemaPath ∧
      v.path = w.path ∧ Same v.context w.context := by
  cases v
  cases w
  simp only [outline, outlines_eq_map, Outline.mk.injEq, Same]

theorem outline_ofMessage (text other : String) :
    (ofMessage text).outline = (ofMessage other).outline :=
  rfl

theorem outline_withContext (text other : String) (h : Same vs ws) :
    ((ofMessage text).withContext vs).outline = ((ofMessage other).withContext ws).outline :=
  outline_eq_iff.mpr ⟨rfl, rfl, rfl, rfl, h⟩

theorem outline_nested (path schemaPath : Option Step) (h : v.outline = w.outline) :
    (v.nested path schemaPath).outline = (w.nested path schemaPath).outline := by
  obtain ⟨hkeyword, hculprit, hschema, hpath, hcontext⟩ := outline_eq_iff.mp h
  exact outline_eq_iff.mpr
    ⟨hkeyword, hculprit, by simp only [nested, hschema], by simp only [nested, hpath], hcontext⟩

theorem outline_underSchema (step : Step) (h : v.outline = w.outline) :
    (v.underSchema step).outline = (w.underSchema step).outline := by
  obtain ⟨hkeyword, hculprit, hschema, hpath, hcontext⟩ := outline_eq_iff.mp h
  exact outline_eq_iff.mpr
    ⟨hkeyword, hculprit, by simp only [underSchema, hschema], hpath, hcontext⟩

theorem outline_fill (name : String) (declared declared' culprit schema schema' : Json)
    (h : v.outline = w.outline) :
    (v.fill name declared culprit schema).outline =
      (w.fill name declared' culprit schema').outline := by
  obtain ⟨hkeyword, hculprit, hschema, hpath, hcontext⟩ := outline_eq_iff.mp h
  exact outline_eq_iff.mpr
    ⟨by simp only [fill, hkeyword], by simp only [fill, hculprit], hschema, hpath, hcontext⟩

namespace Same

theorem refl (vs : List Violation) : Same vs vs := rfl

theorem singleton (h : v.outline = w.outline) : Same [v] [w] :=
  congrArg (fun o => [o]) h

theorem append {vs' ws' : List Violation} (h : Same vs ws) (h' : Same vs' ws') :
    Same (vs ++ vs') (ws ++ ws') := by
  rw [Same, List.map_append, List.map_append, h, h']

theorem isEmpty (h : Same vs ws) : vs.isEmpty = ws.isEmpty := by
  rw [← List.isEmpty_map (f := outline), h, List.isEmpty_map]

theorem map {f g : Violation → Violation}
    (hfg : ∀ v w : Violation, v.outline = w.outline → (f v).outline = (g w).outline)
    (h : Same vs ws) : Same (vs.map f) (ws.map g) := by
  induction vs generalizing ws with
  | nil =>
      cases ws with
      | nil => rfl
      | cons w ws => cases h
  | cons v vs ih =>
      cases ws with
      | nil => cases h
      | cons w ws =>
          obtain ⟨hfirst, hrest⟩ := List.cons.inj h
          exact List.cons_eq_cons.mpr ⟨hfg v w hfirst, ih hrest⟩

/-- A function that preserves outlines can be applied on one side. -/
theorem map_left {f : Violation → Violation} (hf : ∀ v ∈ vs, (f v).outline = v.outline)
    (h : Same vs ws) : Same (vs.map f) ws := by
  refine Eq.trans ?_ h
  rw [List.map_map]
  exact List.map_congr_left hf

end Same

/-- The violation is complete: its keyword, declared value, value and schema are set. -/
structure Filled (v : Violation) : Prop where
  keyword : v.keyword.isSome
  declared : v.declared.isSome
  culprit : v.culprit.isSome
  schema : v.schema.isSome

theorem filled_fill (v : Violation) (name : String) (declared culprit schema : Json) :
    (v.fill name declared culprit schema).Filled := by
  constructor <;> simp [fill]

theorem Filled.underSchema (h : v.Filled) (step : Step) : (v.underSchema step).Filled :=
  ⟨h.keyword, h.declared, h.culprit, h.schema⟩

/-- Filling in a complete violation does not change it. -/
theorem Filled.fill_eq (h : v.Filled) (name : String) (declared culprit schema : Json) :
    v.fill name declared culprit schema = v := by
  rw [fill, Option.or_of_isSome h.keyword, Option.or_of_isSome h.declared,
    Option.or_of_isSome h.culprit, Option.or_of_isSome h.schema]
  cases v
  rfl

theorem Filled.outline_fill (h : v.Filled) (name : String) (declared culprit schema : Json) :
    (v.fill name declared culprit schema).outline = v.outline :=
  congrArg outline (h.fill_eq name declared culprit schema)

end Violation

namespace Setting

variable {t : Setting} {w : Walker} {subject : Subject}

theorem lists_filled_applyKeyword (name : String) (declared : Json) (schema : Json.Members) :
    Lists Violation.Filled (t.applyKeyword w name declared subject schema) := by
  unfold applyKeyword
  cases t.registry.lookup? name with
  | none => exact .nil
  | some keyword =>
      refine .map (q := fun _ => True) (fun _ _ _ _ _ => trivial) fun v _ => ?_
      have hfill := v.filled_fill name declared subject.value (.object schema)
      dsimp only
      split
      · exact hfill
      · exact hfill.underSchema _

theorem lists_filled_applyKeywords (checked effective : Bool) (schema : Json.Members) :
    Lists Violation.Filled (t.applyKeywords w checked effective subject schema) := by
  unfold applyKeywords
  split
  · exact lists_filled_applyKeyword _ _ _
  · refine .append ?_ (.collect fun entry _ => ?_)
    · unfold applyBan
      split
      · exact .nil
      · exact lists_filled_applyKeyword _ _ _
    · dsimp only
      split
      · exact .nil
      · exact lists_filled_applyKeyword _ _ _

theorem lists_filled_onBranches (effective : Bool) (branches : List Json) :
    Lists Violation.Filled (Ban.onBranches w effective subject branches) := by
  unfold Ban.onBranches
  split
  · exact .nil
  · refine .after fun targets => .after fun union => ?_
    dsimp only
    split
    · exact .nil
    · exact .singleton ((Violation.filled_fill _ _ _ _ _).underSchema _)

/-- All violations of a walk are filled in. -/
theorem lists_filled_visit (depth : Nat) (subject : Subject) (schema : Json)
    (override : Option Bool) : Lists Violation.Filled (t.visit depth subject schema override) := by
  cases depth with
  | zero => exact .fail _
  | succ depth =>
      cases schema with
      | object members =>
          refine .after fun s => .after fun scope => Ensures.inNode ?_
          refine .bind (Lists.collect fun branches _ => lists_filled_onBranches _ branches)
            fun unknown hunknown => .after fun _ => ?_
          refine .bind (lists_filled_applyKeywords _ _ _) fun violations hviolations => ?_
          refine .pure fun v hv => ?_
          exact (List.mem_append.mp hv).elim (hunknown v) (hviolations v)
      | _ => exact .nil

/-- The violations that a reference passes on are filled in. -/
theorem lists_filled_refer (depth : Nat) (reference : String) (subject : Subject) :
    Lists Violation.Filled
      (Walker.refer ⟨t.resolver, t.findsCycles, t.visit depth⟩ reference subject) := by
  refine .after fun found => .after fun s => ?_
  dsimp only
  split
  · exact .fail _
  · exact .after fun _ => Ensures.ensuring (Ensures.inScope (lists_filled_visit _ _ _ _))

end Setting

end SchemaCheck
