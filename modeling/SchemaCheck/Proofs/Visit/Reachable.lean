import SchemaCheck.Proofs.Resolver.Sound
import SchemaCheck.Proofs.Visit.Link
import SchemaCheck.Proofs.Walk.Calm
import SchemaCheck.Proofs.Walk.Mirror

/-!
The schemas that a walk can apply, defined in terms of schemas and scopes only, and walks side by
side on these schemas while the ban is off. If no reachable schema switches the ban on, the frame of
a walk never changes, so that its result depends on its scope and, with the check for cycles, on the
open references only.
-/

namespace SchemaCheck

open Walk

namespace Setting

/-- The schemas that a walk over `root` can apply, each with a scope that it can be applied in.
References have the targets that they have with a new cache. -/
inductive Reachable (t : Setting) (root : Json) : Url → Json → Prop
  | root : Reachable t root t.resolver.base root
  | inside {scope : Url} {members : Json.Members} {own : Option Url} {sub : Json} :
      Reachable t root scope (.object members) →
      declaredScope members (.ofBase scope) = .ok own → t.Inside members sub →
      Reachable t root (own.getD scope) sub
  | target {scope : Url} {members : Json.Members} {own : Option Url} {reference : String}
      {target : Target} :
      Reachable t root scope (.object members) →
      declaredScope members (.ofBase scope) = .ok own →
      Json.Members.find? refKeyword members = some (.string reference) →
      ((t.resolver.resolve reference (.ofBase (own.getD scope))).run
        (t.resolver.seed root)).1 = .ok target →
      Reachable t root target.url target.schema

/-- No reachable schema switches the ban on. -/
def Unbanned (t : Setting) (root : Json) : Prop :=
  ∀ scope members, t.Reachable root scope (.object members) →
    Json.Members.find? Ban.keyword members ≠ some (.bool true)

theorem declaredScope_congr {members : Json.Members} {scopes others : ScopeStack}
    (h : scopes.current = others.current) :
    declaredScope members scopes = declaredScope members others := by
  unfold declaredScope
  rw [h]

theorem plain_declaredScope {members : Json.Members} {scopes : ScopeStack} {e : SchemaError}
    (h : declaredScope members scopes = .error e) : (Failure.schema e).Plain := by
  unfold declaredScope at h
  split at h
  · cases h
  · split at h
    · cases h
    · cases h
      exact Keyword.plain_schema fun _ => nofun

theorem regular_declaredScope {members : Json.Members} {scopes : ScopeStack} {own : Option Url}
    (hscope : scopes.current.Regular) (h : declaredScope members scopes = .ok own) :
    (own.getD scopes.current).Regular := by
  cases own with
  | none => exact hscope
  | some u =>
      obtain ⟨id, -, hjoin⟩ := declaredScope_eq_some h
      exact Url.join_regular hscope hjoin

/-- The scope of a reachable schema is regular if the first scope is. -/
theorem Reachable.regular {t : Setting} {root schema : Json} {scope : Url}
    (hbase : t.resolver.base.Regular) (h : t.Reachable root scope schema) : scope.Regular := by
  induction h with
  | root => exact hbase
  | @inside scope members own sub _ hdeclared _ ih =>
      have hscope : (ScopeStack.ofBase scope).current.Regular := ih
      exact regular_declaredScope hscope hdeclared
  | @target scope members own reference target _ hdeclared _ hresolve ih =>
      have hscope : (ScopeStack.ofBase scope).current.Regular := ih
      exact Url.join_regular (regular_declaredScope hscope hdeclared)
        (Resolver.resolveUrl_of_resolve hresolve).1

/-- The target of a reference that a walk can follow. -/
structure Leads (t : Setting) (root : Json) (target : Target) : Prop where
  reachable : t.Reachable root target.url target.schema
  resolves : ((t.resolver.resolveUrl target.url).run (t.resolver.seed root)).1 = .ok target.schema

/-- A target is determined by the text of its locator. -/
theorem Leads.eq_of_write {t : Setting} {root : Json} {target other : Target}
    (hbase : t.resolver.base.Regular) (h : t.Leads root target) (hother : t.Leads root other)
    (hwrite : target.url.write = other.url.write) : target = other := by
  have hurl := Url.write_injective (h.reachable.regular hbase) (hother.reachable.regular hbase)
    hwrite
  have hschema : (Except.ok target.schema : Except SchemaError Json) = .ok other.schema := by
    rw [← h.resolves, ← hother.resolves, hurl]
  cases target
  cases other
  cases hurl
  cases hschema
  rfl

end Setting

/-- The cached entries and patterns of the memory are the ones that a walk over `root` would
compute. -/
structure Memory.Sound (r : Resolver) (root : Json) (m : Memory) : Prop where
  cache : m.cache.Sound r root
  compiled : m.Compiled

namespace Memory

variable {r : Resolver} {root : Json} {m : Memory}

theorem cache_compile (m : Memory) (pattern : String) :
    (m.compile pattern).2.cache = m.cache := by
  unfold Memory.compile
  split
  · rfl
  · split <;> rfl

theorem Sound.compile (hm : m.Sound r root) (pattern : String) :
    (m.compile pattern).2.Sound r root where
  cache := by
    rw [cache_compile]
    exact hm.cache
  compiled := (learning_compiled r).compile pattern m hm.compiled

theorem versed_sound (r : Resolver) (root : Json) : Versed (·.Sound r root) where
  compiled _ hm := hm.compiled
  compile pattern _ hm := hm.compile pattern

end Memory

/-- The state of a walk in the scope `scope` with the ban off. -/
structure WalkState.Ready (s : WalkState) (scope : Url) : Prop where
  scope : s.scopes.current = scope
  frame : s.frame = .free

theorem WalkState.Ready.jump {s : WalkState} (hframe : s.frame = .free) (target : Target)
    (subject : Subject) : (s.jump target subject).Ready target.url :=
  ⟨rfl, hframe⟩

theorem WalkState.Ready.remember {s : WalkState} {scope : Url} (h : s.Ready scope) (m : Memory) :
    (s.remember m).Ready scope :=
  ⟨h.scope, h.frame⟩

/-- A node that does not switch the ban on has no flag that does. -/
theorem Setting.ownBan_eq_false {members : Json.Members}
    (hban : Json.Members.find? Ban.keyword members ≠ some (.bool true)) :
    (Setting.ownBan members).getD false = false := by
  unfold Setting.ownBan
  rcases hfind : Json.Members.find? Ban.keyword members with - | j
  · rfl
  · cases j with
    | bool value =>
        cases value with
        | true => exact absurd hfind hban
        | false => rfl
    | _ => rfl

/-- Inside a node that does not switch the ban on, it is off. -/
theorem WalkState.Ready.within {s : WalkState} {scope : Url} (h : s.Ready scope)
    {members : Json.Members} (hban : Json.Members.find? Ban.keyword members ≠ some (.bool true))
    (own : Option Url) : (s.within members none own false).Ready (own.getD scope) := by
  refine ⟨by rw [current_within, h.scope], ?_⟩
  have hown := Setting.ownBan_eq_false hban
  have hframe : (s.within members none own false).frame =
      { Setting.frameOf members none s.frame.ban with suppressBranchBan := false } := by
    cases own <;> rfl
  rw [hframe, h.frame]
  simp [Setting.frameOf, Frame.free, hown]

/-- Branches are not relieved if the ban is off. -/
theorem WalkState.Ready.not_relieved {s : WalkState} {scope : Url} (h : s.Ready scope)
    {members : Json.Members} (hban : Json.Members.find? Ban.keyword members ≠ some (.bool true))
    {relieved : Bool}
    (hrelieved : relieved = true → Setting.effectiveBan members none s.frame.ban = true) :
    relieved = false := by
  rw [Bool.eq_false_iff]
  intro htrue
  have heffective := hrelieved htrue
  rw [h.frame, Setting.effectiveBan, Option.or_none, Frame.free, Setting.ownBan_eq_false hban]
    at heffective
  cases heffective

/-- With a sound memory a reference has the same target as with a new cache, and the memory stays
sound. -/
theorem WalkState.Ready.resolve {r : Resolver} {root : Json} {s : WalkState} {scope : Url}
    {m : Memory} (h : s.Ready scope) (hscope : scope.Regular) (hm : m.Sound r root)
    (reference : String) :
    ((r.resolve reference s.scopes).run m.cache).1 =
        ((r.resolve reference (.ofBase scope)).run (r.seed root)).1 ∧
      ({ m with cache := ((r.resolve reference s.scopes).run m.cache).2 } : Memory).Sound r root := by
  have hregular : s.scopes.current.Regular := h.scope ▸ hscope
  obtain ⟨hsame, hlearnt⟩ := Resolver.sound_resolve hm.cache hregular reference
  rw [h.scope] at hsame
  exact ⟨hsame, hlearnt, hm.compiled⟩

/-- Two runs from sound memories. -/
def Link.sound (r : Resolver) (root : Json) (left right both : Failure → Prop) : Link where
  memories m n := m.Sound r root ∧ n.Sound r root
  left := left
  right := right
  both := both

namespace Walk

variable {r : Resolver} {root : Json} {left right both : Failure → Prop} {w w' : Walker}
variable {a b : WalkState} {scope : Url}

theorem regular_sound (hplain : ∀ e : Failure, e.Plain → both e) :
    Regular (.sound r root left right both) :=
  regular_of_compiled hplain (fun _ _ hmem => ⟨hmem.1.compiled, hmem.2.compiled⟩)
    fun pattern _ _ hmem => ⟨hmem.1.compile pattern, hmem.2.compile pattern⟩

/-- A reference has the same target for any two sound memories. -/
theorem linked_resolve_sound (hr : r.Honest) (hplain : ∀ e : Failure, e.Plain → both e)
    (hw : w.resolver = r) (hw' : w'.resolver = r) (ha : a.Ready scope) (hb : b.Ready scope)
    (hscope : scope.Regular) (reference : String) :
    Linked (.sound r root left right both) a b (w.resolve reference) (w'.resolve reference) := by
  rintro m n ⟨hm, hn⟩
  obtain ⟨hsame, hlearnt⟩ := ha.resolve hscope hm reference
  obtain ⟨hsame', hlearnt'⟩ := hb.resolve hscope hn reference
  have hmem : (Link.sound r root left right both).memories _ _ := ⟨hlearnt, hlearnt'⟩
  rw [resolve_apply, resolve_apply, hw, hw']
  show Meets _ a b (((r.resolve reference a.scopes).run m.cache).1.mapError .schema, _)
    (((r.resolve reference b.scopes).run n.cache).1.mapError .schema, _)
  rw [hsame, hsame']
  cases hresult : ((r.resolve reference (.ofBase scope)).run (r.seed root)).1 with
  | ok target => exact .ok hmem
  | error e =>
      exact .error hmem (hplain _ (Keyword.plain_schema (Resolver.resolve_ne_cycle hr hresult)))

end Walk

namespace Setting

variable {t : Setting} {draft : Draft} {root schema : Json} {left right both : Failure → Prop}
variable {w w' : Walker} {a b : WalkState} {scope : Url} {subject : Subject}

/-- Two walkers agree on a schema if they agree on the schemas that it applies and on the target of
its reference. -/
theorem linked_apply_of_reachable (ht : t.registry = .ofDraft draft) (hr : t.resolver.Honest)
    (hbase : t.resolver.base.Regular) (hban : t.Unbanned root)
    (hplain : ∀ e : Failure, e.Plain → both e) (hw : w.resolver = t.resolver)
    (hw' : w'.resolver = t.resolver) (hreach : t.Reachable root scope schema)
    (ha : a.Ready scope) (hb : b.Ready scope)
    (hvisit : ∀ a' b' scope' inner sub, a'.following = a.following → a'.Ready scope' →
      b'.Ready scope' → t.Reachable root scope' sub → subject.Near inner →
      Linked (.sound t.resolver root left right both) a' b' (w.visit inner sub none)
        (w'.visit inner sub none))
    (hfollow : ∀ a' b' reference target, a'.following = a.following → a'.frame = .free →
      b'.frame = .free → t.Leads root target →
      Linked (.sound t.resolver root left right both) a' b' (w.follow reference target subject)
        (w'.follow reference target subject)) :
    Linked (.sound t.resolver root left right both) a b (t.applySchema w subject schema none)
      (t.applySchema w' subject schema none) := by
  by_cases hobject : ∃ members, schema = .object members
  · obtain ⟨members, rfl⟩ := hobject
    have hregular : Regular (.sound t.resolver root left right both) := regular_sound hplain
    refine linked_applySchema (fun e h => hplain e h.plain) hregular.regex ht
      (declaredScope_congr (ha.scope.trans hb.scope.symm)) (ha.frame.trans hb.frame.symm)
      (fun e herror => hplain _ (plain_declaredScope herror)) fun own hown relieved hrelieved => ?_
    -- Inside the node both walks are ready for the scope that it declares.
    have hunbanned := hban scope members hreach
    have hdeclared : declaredScope members (.ofBase scope) = .ok own := by
      rw [← hown]
      exact declaredScope_congr ha.scope.symm
    have hready := ha.within hunbanned own
    have hready' := hb.within hunbanned own
    obtain rfl := ha.not_relieved hunbanned hrelieved
    have hinner : (own.getD scope).Regular := by
      rw [← ha.scope]
      exact regular_declaredScope (ha.scope ▸ hreach.regular hbase) hown
    exact {
      resolve := fun reference _ =>
        linked_resolve_sound hr hplain hw hw' hready hready' hinner reference
      descend := fun inner sub hnear hinside =>
        hvisit _ _ _ inner sub rfl hready hready' (.inside hreach hdeclared hinside) hnear
      branch := fun sub hinside => by
        have hsuppress : (a.within members none own false).frame.suppressBranchBan = false := by
          rw [hready.frame]
          rfl
        refine linked_branch (by rw [hready.frame, hready'.frame]) ?_
        rw [hsuppress]
        exact hvisit _ _ _ _ sub rfl hready hready' (.inside hreach hdeclared hinside) .here
      refer := fun reference hreference => by
        refine .bind (linked_resolve_sound hr hplain hw hw' hready hready' hinner reference)
          fun target m n hmem hrun _ => ?_
        -- The target is the one for a new cache, and therefore reachable.
        have hresolved : ((t.resolver.resolve reference (.ofBase (own.getD scope))).run
            (t.resolver.seed root)).1 = .ok target := by
          rw [← (hready.resolve hinner hmem.1 reference).1, ← hw]
          exact resolve_eq_ok hrun
        exact hfollow _ _ reference target rfl hready.frame hready'.frame
          ⟨.target hreach hdeclared hreference hresolved,
            (Resolver.resolveUrl_of_resolve hresolved).2⟩ }
  · exact linked_applySchema_other fun members heq => hobject ⟨members, heq⟩

end Setting

end SchemaCheck
