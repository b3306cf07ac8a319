import SchemaCheck.Proofs.Validator.Independence
import SchemaCheck.Proofs.Visit.Inline

/-!
Validations by a schema and by the same schema with its references inlined. They have the same
outcome, and the violations differ in their messages and quoted schemas only; references do not show
in any location.
-/

namespace SchemaCheck

open Relation

/-- The outcomes of runs that mirror each other. -/
theorem Walk.Mirrored.outlines {I J : Memory → Prop} {s t : WalkState}
    {p q : Except Failure (List Violation) × WalkState}
    (h : Walk.Mirrored I J s t Violation.Same p q) :
    p.1 ≠ .error .tooDeep ∧
      p.1.map (List.map Violation.outline) = q.1.map (List.map Violation.outline) := by
  cases h with
  | ok hsame _ _ => exact ⟨nofun, congrArg Except.ok hsame⟩
  | error he _ _ => exact ⟨fun heq => he (Except.error.inj heq), rfl⟩

/-- References are transparent. Consider a schema of the fourth draft without ids and without the
ban, such that every reachable reference is a fragment that leads to an object of the schema, and no
schema leads to itself. If the references at the places for schemas are inlined, to a depth at which
none is left, the validation of any instance has a corresponding outcome, whatever has been
validated before: both validations fail with the same failure, or they report the same number of
violations in the same order, which agree in the keyword, the value and both locations, and so do
the violations in their contexts. -/
theorem Options.inlines_references (o : Options) (hdraft : o.draft = .draft4)
    (hvocabulary : o.registry = none) (schema : Json) (base : Url) (hbase : base.Regular)
    (hids : schema.ids = [])
    (hban : ∀ part ∈ schema.parts, part.get? Ban.keyword ≠ some (.bool true)) :
    let v := o.assemble schema base
    let leads := v.setting.leads schema
    Keyword.Resolved leads schema →
    (∀ sub, ReflTransGen (Keyword.Onward leads) schema sub →
      ¬ TransGen (Keyword.Onward leads) sub sub) →
    ∃ n,
      let inlined := Keyword.inlined leads n schema
      let v' := o.assemble inlined base
      (∀ sub, ReflTransGen (Keyword.Onward fun _ => none) inlined sub →
        sub.get? Setting.refKeyword = none) ∧
      ∀ instance_ memory memory', v.Recalls memory → v'.Recalls memory' →
        ∀ depth depth', n < depth → n < depth' →
          let x := ((v.withDepth depth).violations instance_ .permissive).outcome memory
          let y := ((v'.withDepth depth').violations instance_ .permissive).outcome memory'
          x ≠ .error .tooDeep ∧
            x.map (List.map Violation.outline) = y.map (List.map Violation.outline) := by
  intro v leads hresolved hacyclic
  have ht : v.setting.registry = .draft4 := by
    simp [v, assemble, hvocabulary, hdraft, Registry.ofDraft]
  have hroot : v.setting.Inlinable schema := ⟨hbase, hids, hban, hresolved, hacyclic⟩
  obtain ⟨n, hends⟩ := hroot.exists_ends
  refine ⟨n, fun sub hpath => hends.get?_inlined hresolved hpath, ?_⟩
  intro instance_ memory memory' hmemory hmemory' depth depth' hdepth hdepth' x y
  have hlawful := Setting.lawful_draft4 ht
  have htrack : v.setting.OnTrack schema (v.start .permissive memory) (.root instance_) schema :=
    { scope := rfl
      regular := hbase
      frame := rfl
      met := .refl
      above := fun _ hkey => absurd hkey List.not_mem_nil
      behind := fun _ hkey => absurd hkey List.not_mem_nil }
  have hsound' : memory'.Sound v.setting.resolver (Keyword.inlined leads n schema) :=
    Validator.Recalls.sound (v := o.assemble (Keyword.inlined leads n schema) base) hlawful hbase
      hmemory'
  have hfree : (v.start .permissive memory').frame = .free := rfl
  have hmirrors := Setting.mirrors_visit ht (Memory.versed_sound _ _) hroot hends htrack hfree
    hdepth hdepth' memory memory' (hmemory.sound hlawful hbase) hsound'
  exact hmirrors.outlines

/-- Two references on the way from a member to its type, which do not show in the violation of the
member. -/
theorem Options.inlines_references_hops :
    let o : Options := Options.standard .offline
    let base : Url := Validator.defaultBase
    let kind : Json.Members := [("type", .string "string")]
    let hop : Json.Members := [("$ref", .string "#/definitions/b")]
    let schemaOf (x : Json.Members) : Json :=
      .object [("definitions", .object [("a", .object hop), ("b", .object kind)]),
        ("properties", .object [("x", .object x)])]
    let schema : Json := schemaOf [("$ref", .string "#/definitions/a")]
    let v := o.assemble schema base
    let instance_ : Json := .object [("x", .null)]
    let report (v : Validator) (depth : Nat) :=
      ((v.withDepth depth).violations instance_ .permissive).outcome v.memory
    Keyword.inlined (v.setting.leads schema) 3 schema = schemaOf kind ∧
      (report v 9).map (List.map fun v => (v.keyword, v.schemaPath)) =
        .ok [(some "type", [.key "properties", .key "x", .key "type"])] ∧
      ∃ n, ∀ depth depth', n < depth → n < depth' →
        let v' := o.assemble (Keyword.inlined (v.setting.leads schema) n schema) base
        (report v depth).map (List.map Violation.outline) =
          (report v' depth').map (List.map Violation.outline) := by
  intro o base kind hop schemaOf schema v instance_ report
  have hparse : Url.parse "memory:///schema.json" = .ok base := by decide +kernel
  have hrun : (report v 9).map (List.map fun v => (v.keyword, v.schemaPath)) =
      .ok [(some "type", [.key "properties", .key "x", .key "type"])] := by decide +kernel
  have hfirst : v.setting.leads schema "#/definitions/a" = some hop := by
    simp only [v, schema, schemaOf, hop, kind, base, o]
    rfl
  have hsecond : v.setting.leads schema "#/definitions/b" = some kind := by
    simp only [v, schema, schemaOf, hop, kind, base, o]
    rfl
  let leads := v.setting.leads schema
  let first : Json := .object [("$ref", .string "#/definitions/a")]
  have honward (sub : Json) (h : Keyword.Onward leads schema sub) : sub = first := by
    rcases h.cases with ⟨-, entry, hentry, hsub⟩ | ⟨_, _, hfind, -⟩
    · rcases List.mem_pair.mp hentry with rfl | rfl
      · cases hsub
      · exact List.mem_singleton.mp hsub
    · simp [Json.Members.find?, Setting.refKeyword] at hfind
  have hend (sub : Json) (h : Keyword.Onward leads (.object kind) sub) : False := by
    rcases h.cases with ⟨-, entry, hentry, hsub⟩ | ⟨_, _, hfind, -⟩
    · cases List.mem_singleton.mp hentry
      cases hsub
    · simp [kind, Json.Members.find?, Setting.refKeyword] at hfind
  have hends : Keyword.Ends leads 4 schema := by
    intro sub h
    obtain rfl := honward sub h
    intro sub h
    obtain rfl := h.eq_target rfl hfirst
    intro sub h
    obtain rfl := h.eq_target rfl hsecond
    exact fun sub h => (hend sub h).elim
  have hresolved : Keyword.Resolved leads schema := by
    have hflags : ∀ part ∈ schema.parts, (part.get? Setting.refKeyword).all
        (fun j => (j.string?.bind (v.setting.leads schema)).isSome) := by
      decide +kernel
    exact Setting.resolved_of_parts fun part hpart j hfind =>
      (Option.all_eq_true _ _).mp (hflags part hpart) j hfind
  have hinlined : Keyword.inlined (v.setting.leads schema) 3 schema = schemaOf kind := by
    simp [schema, schemaOf, Keyword.inlined, Keyword.replaceIn, Keyword.replace, Layout.ofKeyword,
      Layout.replace, Json.mapValues, Json.Members.find?, Setting.refKeyword, Json.string?, hfirst,
      hsecond, hop, kind]
  have hban : ∀ part ∈ schema.parts, part.get? Ban.keyword ≠ some (.bool true) := by
    have hflags : ∀ part ∈ schema.parts, (part.get? Ban.keyword).bind Json.bool? ≠ some true := by
      decide +kernel
    exact fun part hpart heq => hflags part hpart (by simp [heq, Json.bool?])
  have hsame := o.inlines_references rfl rfl schema base (Url.parse_regular hparse) rfl hban
    hresolved fun sub hpath => (hends.of_met hpath).acyclic
  refine ⟨hinlined, hrun, ?_⟩
  obtain ⟨n, -, hn⟩ := hsame
  exact ⟨n, fun depth depth' hdepth hdepth' =>
    (hn instance_ v.memory _ .first .first depth depth' hdepth hdepth').2⟩

end SchemaCheck
