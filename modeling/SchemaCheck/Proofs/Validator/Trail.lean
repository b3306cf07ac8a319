import SchemaCheck.Proofs.Validator.History
import SchemaCheck.Proofs.Visit.Trail

/-!
The flag of the ban in force at each schema that a validation applies, determined by the path to it.
-/

namespace SchemaCheck

open Walk

/-- At every node that a validation applies, by whatever keywords and references, the flag in force
is the one given by the trail: the flag of the node itself; otherwise off, if the node is a branch
whose union has been checked or is reached from such a branch by references at nodes without a flag;
otherwise that of the nearest enclosing node that has one, and that of the call if none has. A node
that is not relieved in this way is never given any other flag than the inherited one. The walk
`visitAlong` fails with `e` where this does not hold, but always has the outcome of `visit`. -/
theorem Options.governed_by_trail (o : Options) (hvocabulary : o.registry = none) (schema : Json)
    (base : Url) :
    let v := o.assemble schema base
    ∀ (instance_ : Json) (config : Config) (memory : Memory) (depth : Nat) (e : Failure),
      v.setting.visitAlong config.bansUnknown e depth [] (.root instance_) v.schema none
          (v.start config memory) =
        v.setting.visit depth (.root instance_) v.schema none (v.start config memory) := by
  intro v instance_ config memory depth e
  have ht : v.setting.registry = .ofDraft o.draft := registry_assemble hvocabulary schema base
  have hfirst : Setting.Along config.bansUnknown [] none (v.start config memory) := ⟨rfl, rfl⟩
  have hlinked := Setting.linked_visitAlong ht rfl rfl hfirst e depth (.root instance_) v.schema
  exact (hlinked memory memory ⟨rfl, trivial⟩).eq_of_same.symm

/-- A schema with one branch that leads by two references to a schema which declares `a` only, and
another branch which declares `a`, `b` and `c`. The first branch is relieved, so that `b` and `c`
are not reported for it. The schema of `a` that it applies inherits the flag of the call. The schema
of `c` has a flag of its own, which switches the ban off for itself and for the schema of `d` inside
it. -/
theorem Options.governed_by_trail_references :
    let o : Options := { standard .offline with depth := 9 }
    let refer (name : String) : Json.Members := [("$ref", .string ("#/definitions/" ++ name))]
    let declaring (properties : Json.Members) : Json.Members := [("properties", .object properties)]
    let inner := declaring [("k", .object [])]
    let quiet := (Ban.keyword, .bool false) :: declaring [("d", .object inner)]
    let all := declaring [("a", .object []), ("b", .object []), ("c", .object quiet)]
    let second := declaring [("a", .object inner)]
    let members : Json.Members :=
      [("allOf", .array [.object (refer "first"), .object all]),
        ("definitions", .object [("first", .object (refer "second")), ("second", .object second)])]
    let v := o.assemble (.object members) Validator.defaultBase
    let stray : Json := .object [("x", .null)]
    let instance_ : Json :=
      .object [("a", stray), ("b", .null), ("c", .object [("d", stray), ("x", .null)])]
    let toSecond : Trail :=
      [⟨refer "second", "$ref"⟩, ⟨refer "first", "$ref"⟩, ⟨members, "allOf"⟩]
    let toQuiet : Trail := [⟨all, "properties"⟩, ⟨members, "allOf"⟩]
    (toSecond.relieved true = true ∧ toSecond.flag true second = false ∧
        Trail.flag true (⟨second, "properties"⟩ :: toSecond) inner = true) ∧
      (toQuiet.flag true quiet = false ∧
        Trail.flag true (⟨quiet, "properties"⟩ :: toQuiet) inner = false) ∧
      (v.setting.visitAlong true .remainderOverflow 9 [] (.root instance_) v.schema none
          (v.start .standard v.memory)).1.map (fun vs => vs.map fun v => (v.path, v.keyword)) =
        .ok [([.key "a"], some Ban.keyword)] := by
  intro o refer declaring inner quiet all second members v stray instance_ toSecond toQuiet
  refine ⟨by decide +kernel, by decide +kernel, ?_⟩
  rw [show v.setting.visitAlong true .remainderOverflow 9 [] (.root instance_) v.schema none
      (v.start .standard v.memory) = _ from
    o.governed_by_trail rfl (.object members) Validator.defaultBase instance_ .standard v.memory 9
      .remainderOverflow]
  decide +kernel

end SchemaCheck
