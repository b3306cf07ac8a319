import Mathlib.Logic.Relation
import SchemaCheck.Proofs.Visit.Independence

/-!
The course of a walk: the steps that it can take from a schema, into the schemas that this one
applies, or to the target of its reference with a new cache. A property of all schemas on the course
from one schema holds for the course from every later one.
-/

namespace SchemaCheck.Setting

open Walk Relation

/-- A schema and the scope that it is applied in. -/
structure Node where
  scope : Url
  schema : Json

/-- The second node is the target of the reference of the first one. -/
inductive Refers (t : Setting) (root : Json) : Node → Node → Prop
  | intro {scope : Url} {members : Json.Members} {own : Option Url} {reference : String}
      {target : Target} :
      declaredScope members (.ofBase scope) = .ok own →
      Json.Members.find? refKeyword members = some (.string reference) →
      ((t.resolver.resolve reference (.ofBase (own.getD scope))).run
        (t.resolver.seed root)).1 = .ok target →
      Refers t root ⟨scope, .object members⟩ ⟨target.url, target.schema⟩

/-- A walk may apply the second node right after the first one. -/
inductive Applies (t : Setting) (root : Json) : Node → Node → Prop
  | inside {scope : Url} {members : Json.Members} {own : Option Url} {sub : Json} :
      declaredScope members (.ofBase scope) = .ok own → t.Inside members sub →
      Applies t root ⟨scope, .object members⟩ ⟨own.getD scope, sub⟩
  | target {a b : Node} : t.Refers root a b → Applies t root a b

variable {t : Setting} {root : Json} {start a b : Node}

/-- The reachable schemas are the ones on the course from the root. -/
theorem reachable_iff {scope : Url} {schema : Json} :
    t.Reachable root scope schema ↔
      ReflTransGen (t.Applies root) ⟨t.resolver.base, root⟩ ⟨scope, schema⟩ := by
  constructor
  · intro h
    induction h with
    | root => exact .refl
    | inside _ hown hinside ih => exact .tail ih (.inside hown hinside)
    | target _ hown hreference hresolve ih => exact .tail ih (.target ⟨hown, hreference, hresolve⟩)
  · intro h
    generalize hnode : (⟨scope, schema⟩ : Node) = node at h
    induction h generalizing scope schema with
    | refl =>
        cases hnode
        exact .root
    | tail _ hstep ih =>
        cases hstep with
        | inside hown hinside =>
            cases hnode
            exact .inside (ih rfl) hown hinside
        | target hrefers =>
            cases hrefers with
            | intro hown hreference hresolve =>
                cases hnode
                exact .target (ih rfl) hown hreference hresolve

theorem ownBan_eq_some {members : Json.Members} {flag : Bool} :
    ownBan members = some flag ↔ Json.Members.find? Ban.keyword members = some (.bool flag) := by
  unfold ownBan
  rw [Option.bind_eq_some_iff]
  constructor
  · rintro ⟨j, hfind, hflag⟩
    cases j with
    | bool own =>
        cases hflag
        exact hfind
    | _ => cases hflag
  · exact fun hfind => ⟨_, hfind, rfl⟩

/-- A node has one target at most. -/
theorem Refers.unique {c : Node} (h : t.Refers root a b) (h' : t.Refers root a c) : b = c := by
  obtain ⟨hdeclared, hreference, hresolve⟩ := h
  obtain ⟨hdeclared', hreference', hresolve'⟩ := h'
  cases hdeclared.symm.trans hdeclared'
  cases hreference.symm.trans hreference'
  cases hresolve.symm.trans hresolve'
  rfl

/-- No node that such steps lead to switches the ban on, including the first one. -/
def UnbannedBy (leads : Node → Node → Prop) (start : Node) : Prop :=
  ∀ node, ReflTransGen leads start node → ∀ members, node.schema = .object members →
    ownBan members ≠ some true

section UnbannedBy

variable {leads : Node → Node → Prop} {scope : Url} {members : Json.Members}

theorem UnbannedBy.step (h : UnbannedBy leads a) (hstep : leads a b) : UnbannedBy leads b :=
  fun node hcourse => h node (.head hstep hcourse)

theorem UnbannedBy.ownBan_ne (h : UnbannedBy leads ⟨scope, .object members⟩) :
    ownBan members ≠ some true :=
  h _ .refl members rfl

theorem UnbannedBy.of_steps (hown : ownBan members ≠ some true)
    (h : ∀ next, leads ⟨scope, .object members⟩ next → UnbannedBy leads next) :
    UnbannedBy leads ⟨scope, .object members⟩ := by
  intro node hcourse inner hschema
  rcases hcourse.cases_head with rfl | ⟨next, hstep, hrest⟩
  · cases hschema
    exact hown
  · exact h next hstep node hrest inner hschema

/-- No node on the course switches the ban on. -/
def UnbannedFrom (t : Setting) (root : Json) : Node → Prop :=
  UnbannedBy (t.Applies root)

/-- A node without a reference continues with the schemas that it applies. -/
theorem UnbannedFrom.of_none {own : Option Url}
    (hdeclared : declaredScope members (.ofBase scope) = .ok own)
    (hnone : Json.Members.find? refKeyword members = none) (hown : ownBan members ≠ some true)
    (h : ∀ sub, t.Inside members sub → t.UnbannedFrom root ⟨own.getD scope, sub⟩) :
    t.UnbannedFrom root ⟨scope, .object members⟩ := by
  refine .of_steps hown fun next hstep => ?_
  cases hstep with
  | inside hdeclared' hinside =>
      cases hdeclared.symm.trans hdeclared'
      exact h _ hinside
  | target hrefers =>
      obtain ⟨-, hreference, -⟩ := hrefers
      rw [hnone] at hreference
      cases hreference

/-- A node with a reference continues with its target. -/
theorem UnbannedFrom.of_target (hrefers : t.Refers root ⟨scope, .object members⟩ b)
    (hown : ownBan members ≠ some true) (h : t.UnbannedFrom root b) :
    t.UnbannedFrom root ⟨scope, .object members⟩ := by
  refine .of_steps hown fun next hstep => ?_
  cases hstep with
  | inside _ hinside =>
      obtain ⟨-, hreference, -⟩ := hrefers
      rw [hinside.1] at hreference
      cases hreference
  | target hrefers' => exact hrefers.unique hrefers' ▸ h

end UnbannedBy

variable {s : WalkState} {members : Json.Members} {override : Option Bool} {own : Option Url}
variable {m : Memory}

/-- The schemas that a node applies are the next ones on its course. -/
theorem applies_inside {sub : Json} (hown : declaredScope members s.scopes = .ok own)
    (relieved : Bool) (hsub : t.Inside members sub) :
    t.Applies root ⟨s.scopes.current, .object members⟩
      ⟨(s.within members override own relieved).scopes.current, sub⟩ := by
  rw [WalkState.current_within]
  have hdeclared : declaredScope members (.ofBase s.scopes.current) = .ok own :=
    (declaredScope_congr rfl).trans hown
  exact .inside hdeclared hsub

/-- With a sound memory, the reference of a node leads to the next one on its course, whose scope is
regular again. -/
theorem refers_target {reference : String} {target : Target} (hs : s.scopes.Regular)
    (hown : declaredScope members s.scopes = .ok own) (relieved : Bool)
    (hm : m.Sound t.resolver root)
    (hreference : Json.Members.find? refKeyword members = some (.string reference))
    (hresolve : ((t.resolver.resolve reference
      (s.within members override own relieved).scopes).run m.cache).1 = .ok target) :
    t.Refers root ⟨s.scopes.current, .object members⟩ ⟨target.url, target.schema⟩ ∧
      target.url.Regular := by
  have hinner : (s.within members override own relieved).scopes.Regular :=
    regular_within hs hown relieved
  rw [(Resolver.sound_resolve hm.cache hinner.current reference).1] at hresolve
  have hregular := Url.join_regular hinner.current (Resolver.resolveUrl_of_resolve hresolve).1
  rw [WalkState.current_within] at hresolve
  exact ⟨⟨(declaredScope_congr rfl).trans hown, hreference, hresolve⟩, hregular⟩

/-- The frame inside a node. -/
theorem frame_within (s : WalkState) (members : Json.Members) (override : Option Bool)
    (own : Option Url) (relieved : Bool) :
    (s.within members override own relieved).frame =
      { frameOf members override s.frame.ban with suppressBranchBan := relieved } := by
  cases own <;> rfl

/-- The ban is off at a node that does not inherit it and does not switch it on. -/
theorem effectiveBan_eq_false (hflag : override.getD s.frame.ban = false)
    (hown : ownBan members ≠ some true) : effectiveBan members override s.frame.ban = false := by
  rw [effectiveBan]
  rcases hflagged : ownBan members with - | - | -
  · exact hflag
  · rfl
  · exact absurd hflagged hown

/-- Then it is off at the target of its reference too, unless that switches it on. -/
theorem refOverride_within (own : Option Url) (hflag : override.getD s.frame.ban = false)
    (hown : ownBan members ≠ some true) (relieved : Bool) :
    (s.within members override own relieved).frame.refOverride.getD
      (s.within members override own relieved).frame.ban = false := by
  rw [frame_within, frameOf]
  rcases hflagged : ownBan members with - | - | -
  · exact hflag
  · rfl
  · exact absurd hflagged hown

variable {draft : Draft} {both : Failure → Prop} {w w' : Walker} {subject : Subject}

/-- A reference is resolved to the same target from the same sound memory. -/
theorem linked_resolve_of_sound (hw : w.resolver = t.resolver) (hw' : w'.resolver = t.resolver)
    (hs : s.scopes.Regular) (hschema : ∀ e, both (.schema e)) (reference : String) :
    Linked (.same (·.Sound t.resolver root) both) s s (w.resolve reference)
      (w'.resolve reference) := by
  refine linked_resolve_same (fun m hm => ?_) (fun m _ => by rw [hw, hw']) hschema
  rw [hw]
  exact ⟨(Resolver.sound_resolve hm.cache hs.current reference).2, hm.compiled⟩

/-- Two walkers agree inside a node if they agree on the next nodes of its course, each applied with
its override. -/
theorem linked_of_course (hw : w.resolver = t.resolver) (hw' : w'.resolver = t.resolver)
    (hcycles : w.findsCycles = true) (hcycles' : w'.findsCycles = true)
    (hschema : ∀ e, both (.schema e)) (hs : s.scopes.Regular)
    (hown : declaredScope members s.scopes = .ok own) (relieved : Bool)
    (hdescend : ∀ inner sub, t.Inside members sub →
      Linked (.same (·.Sound t.resolver root) both) (s.within members override own relieved)
        (s.within members override own relieved) (w.visit inner sub none) (w'.visit inner sub none))
    (hbranch : ∀ sub, t.Inside members sub →
      Linked (.same (·.Sound t.resolver root) both) (s.within members override own relieved)
        (s.within members override own relieved)
        (w.visit subject sub (if relieved then some false else none))
        (w'.visit subject sub (if relieved then some false else none)))
    (hfollow : ∀ target : Target, target.url.Regular →
      t.Refers root ⟨s.scopes.current, .object members⟩ ⟨target.url, target.schema⟩ →
      Linked (.same (·.Sound t.resolver root) both)
        ((s.within members override own relieved).jump target subject)
        ((s.within members override own relieved).jump target subject)
        (w.visit subject target.schema (s.within members override own relieved).frame.refOverride)
        (w'.visit subject target.schema
          (s.within members override own relieved).frame.refOverride)) :
    Walker.Linked (.same (·.Sound t.resolver root) both) (s.within members override own relieved)
      (s.within members override own relieved) (t.reachOf subject members) w w' := by
  have hinner : (s.within members override own relieved).scopes.Regular :=
    regular_within hs hown relieved
  refine {
    resolve := fun reference _ => linked_resolve_of_sound hw hw' hinner hschema reference
    descend := fun inner sub _ hsub => hdescend inner sub hsub
    branch := fun sub hsub => linked_branch rfl ?_
    refer := fun reference hreference => ?_ }
  · have hsuppress : (s.within members override own relieved).frame.suppressBranchBan = relieved := by
      cases own <;> rfl
    rw [hsuppress]
    exact hbranch sub hsub
  · refine .bind (linked_resolve_of_sound hw hw' hinner hschema reference)
      fun target m _ hmem hrun _ => ?_
    have hresolve : ((t.resolver.resolve reference
        (s.within members override own relieved).scopes).run m.cache).1 = .ok target :=
      hw ▸ resolve_eq_ok hrun
    obtain ⟨hrefers, htarget⟩ := refers_target hs hown relieved hmem.2 hreference hresolve
    exact linked_follow_of_findsCycles hcycles hcycles' hschema fun _ =>
      hfollow target htarget hrefers

end SchemaCheck.Setting
