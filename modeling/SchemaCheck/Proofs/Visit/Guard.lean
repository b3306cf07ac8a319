import SchemaCheck.Proofs.Visit.Link

/-!
Properties that hold whenever a schema is applied. A guard checks the property before each
application and fails where it does not hold; if the outcome is the same with the guard and without
it, for every failure of the guard, the property holds at every application. This is proved by
showing that the property holds initially and is passed on from each node to the schemas that are
applied inside it.
-/

namespace SchemaCheck.Setting

open Walk

variable {t : Setting} {draft : Draft} {I : Memory → Prop} {p : WalkState → Json → Prop}

/-- The walk that fails with `e` before it applies a schema without the property `p`. If its outcome
is that of `visit` for every `e`, all schemas that a walk applies have the property. -/
def visitWhere (t : Setting) (p : WalkState → Json → Prop) [∀ s schema, Decidable (p s schema)]
    (e : Failure) : Nat → Subject → Json → Option Bool → Walk (List Violation)
  | 0, _, _, _ => Walk.fail .tooDeep
  | depth + 1, subject, schema, override => fun s =>
    if p s schema then
      let w : Walker :=
        { resolver := t.resolver, findsCycles := t.findsCycles, visit := t.visitWhere p e depth }
      t.applySchema w subject schema override s
    else (.error e, s)

theorem visitWhere_of_pos [∀ s schema, Decidable (p s schema)] {s : WalkState} {schema : Json}
    (h : p s schema) (e : Failure) (depth : Nat) (subject : Subject) (override : Option Bool) :
    t.visitWhere p e (depth + 1) subject schema override s =
      t.applySchema ⟨t.resolver, t.findsCycles, t.visitWhere p e depth⟩ subject schema override s :=
  if_pos h

/-- Inside the node, `p` holds for all schemas that are applied next, as long as `I` holds for the
memory. -/
structure PassesFrom (t : Setting) (I : Memory → Prop) (p : WalkState → Json → Prop)
    (s : WalkState) (members : Json.Members) : Prop where
  resolve : ∀ reference m, Names members reference → I m →
    I { m with cache := ((t.resolver.resolve reference s.scopes).run m.cache).2 }
  schema : ∀ sub, t.Inside members sub → p s sub
  target : ∀ reference target subject m,
    Json.Members.find? refKeyword members = some (.string reference) → I m →
    ((t.resolver.resolve reference s.scopes).run m.cache).1 = .ok target →
    (target.url.write, subject.place) ∉ s.following → p (s.jump target subject) target.schema

/-- The property does not depend on the memory, and it is passed on from every node that has it. -/
structure Passes (t : Setting) (I : Memory → Prop) (p : WalkState → Json → Prop) : Prop where
  remember : ∀ s schema m, p s schema → p (s.remember m) schema
  compile : ∀ pattern m, I m → I (m.compile pattern).2
  inside : ∀ s members override own relieved, p s (.object members) →
    declaredScope members s.scopes = .ok own →
    t.PassesFrom I p (s.within members override own relieved) members

/-- For the references of schemas with the property, the resolver agrees with that of `t`, as long
as `I` holds for the memory. -/
def AgreesWhere (t : Setting) (I : Memory → Prop) (p : WalkState → Json → Prop) (r : Resolver) :
    Prop :=
  ∀ s members override own relieved reference m, p s (.object members) →
    declaredScope members s.scopes = .ok own → Names members reference → I m →
    (r.resolve reference (s.within members override own relieved).scopes).run m.cache =
      (t.resolver.resolve reference (s.within members override own relieved).scopes).run m.cache

/-- A property that is passed on and holds initially holds whenever a schema is applied, so that it
can be assumed in comparing each step of two walks. -/
theorem Passes.linked_of_step (h : t.Passes I p) (ht : t.registry = .ofDraft draft)
    (hcycles : t.findsCycles = true) {r : Resolver} (hr : t.AgreesWhere I p r)
    {other : Nat → Subject → Json → Option Bool → Walk (List Violation)}
    (hzero : ∀ subject schema override, other 0 subject schema override = Walk.fail .tooDeep)
    (hsucc : ∀ depth subject schema override s, p s schema →
      other (depth + 1) subject schema override s =
        t.applySchema ⟨r, t.findsCycles, other depth⟩ subject schema override s)
    (depth : Nat) {s : WalkState} {schema : Json} (hs : p s schema) (subject : Subject)
    (override : Option Bool) :
    Linked (.same I fun _ => True) s s (t.visit depth subject schema override)
      (other depth subject schema override) := by
  induction depth generalizing s schema subject override with
  | zero =>
      rw [hzero]
      exact .fail trivial
  | succ depth ih =>
      intro m n hmem
      rw [hsucc _ _ _ _ _ (h.remember s schema n hs)]
      refine (?_ : Linked _ s s (t.applySchema _ subject schema override)
        (t.applySchema _ subject schema override)) m n hmem
      refine linked_applySchema_of_alike ht h.compile (fun _ => trivial) (fun _ _ _ _ => trivial)
        hcycles hcycles ?_
      rintro members rfl own relieved hown
      have hinside := h.inside s members override own relieved hs hown
      exact {
        resolve := hinside.resolve
        agree := fun reference m => hr s members override own relieved reference m hs hown
        visit := fun inner sub override' _ hsub => ih (hinside.schema sub hsub) inner override'
        follow := fun reference target m hreference hm hresolve hnew =>
          ih (hinside.target reference target subject m hreference hm hresolve hnew) _ _ }

/-- The guard of a property that is passed on never fails. -/
theorem Passes.linked (h : t.Passes I p) [∀ s schema, Decidable (p s schema)]
    (ht : t.registry = .ofDraft draft) (hcycles : t.findsCycles = true) (e : Failure) (depth : Nat)
    {s : WalkState} {schema : Json} (hs : p s schema) (subject : Subject)
    (override : Option Bool) :
    Linked (.same I fun _ => True) s s (t.visit depth subject schema override)
      (t.visitWhere p e depth subject schema override) :=
  h.linked_of_step ht hcycles (r := t.resolver) (fun _ _ _ _ _ _ _ _ _ _ _ => rfl)
    (fun _ _ _ => rfl)
    (fun depth subject _ override _ hp => visitWhere_of_pos hp e depth subject override) depth hs
    subject override

/-- A walk with another resolver that agrees for schemas with the property has the same outcome. -/
theorem Passes.linked_resolver (h : t.Passes I p) (ht : t.registry = .ofDraft draft)
    (hcycles : t.findsCycles = true) {r : Resolver} (hr : t.AgreesWhere I p r) (depth : Nat)
    {s : WalkState} {schema : Json} (hs : p s schema) (subject : Subject)
    (override : Option Bool) :
    Linked (.same I fun _ => True) s s (t.visit depth subject schema override)
      (Setting.visit { t with resolver := r } depth subject schema override) :=
  h.linked_of_step ht hcycles hr (fun _ _ _ => rfl) (fun _ _ _ _ _ _ => rfl) depth hs subject
    override

end SchemaCheck.Setting
