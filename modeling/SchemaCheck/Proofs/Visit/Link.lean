import SchemaCheck.Proofs.Visit.Effect
import SchemaCheck.Proofs.Walk.Pair

/-!
Applying a node in two walks side by side. Two walkers agree on a node if, inside the node, they
agree on the schemas that it applies and on its reference. The second walker may also apply another
node; then the results correspond if they do so inside the nodes.
-/

namespace SchemaCheck

open Walk

/-- The context inside a node: its scope, its frame, and whether its branches are relieved of the
ban. -/
def WalkState.within (s : WalkState) (members : Json.Members) (override : Option Bool)
    (scope : Option Url) (relieved : Bool) : WalkState :=
  (s.enter scope (Setting.frameOf members override s.frame.ban)).relieve relieved

@[simp] theorem WalkState.current_within (s : WalkState) (members : Json.Members)
    (override : Option Bool) (scope : Option Url) (relieved : Bool) :
    (s.within members override scope relieved).scopes.current =
      scope.getD s.scopes.current := by
  cases scope <;> rfl

namespace Setting

/-- A node declares its scope by its `id`. -/
theorem declaredScope_eq_some {members : Json.Members} {scopes : ScopeStack} {u : Url}
    (h : declaredScope members scopes = .ok (some u)) :
    ∃ id, Json.Members.find? "id" members = some (.string id) ∧ scopes.current.join id = .ok u := by
  unfold declaredScope at h
  split at h
  · cases h
  next id hid =>
    split at h
    next v hjoin =>
      cases h
      obtain ⟨j, hfind, hstring⟩ := Option.bind_eq_some_iff.mp hid
      cases j with
      | string text =>
          cases hstring
          exact ⟨id, hfind, hjoin⟩
      | _ => cases hstring
    · cases h

/-- Leaving a node restores the scope and the frame. -/
def outside (s : WalkState) (scope : Option Url) (inner : WalkState) : WalkState :=
  { inner with
    scopes := scope.elim id (fun _ scopes => scopes.pop.2) inner.scopes
    frame := s.frame }

theorem outside_within {members : Json.Members} {override : Option Bool} (s : WalkState)
    (scope : Option Url) (relieved : Bool) (m : Memory) :
    outside s scope ((s.within members override scope relieved).remember m) = s.remember m := by
  cases scope <;> rfl

variable {L : Link} {t t' : Setting} {draft : Draft} {w w' : Walker} {a b : WalkState}
variable {subject : Subject} {members others : Json.Members} {override : Option Bool}
variable {effective : Bool} {E : List Violation → List Violation → Prop}

/-- The steps of two nodes from the inside, in two walks. -/
structure PairedNodes (L : Link) (E : List Violation → List Violation → Prop) (t t' : Setting)
    (w w' : Walker) (effective : Bool) (subject : Subject) (members others : Json.Members)
    (a b : WalkState) : Prop where
  same : (t'.unions effective others).isEmpty = (t.unions effective members).isEmpty
  unions : Pairs L a b E
    (Walk.collect (Ban.onBranches w effective subject) (t.unions effective members))
    (Walk.collect (Ban.onBranches w' effective subject) (t'.unions effective others))
  keywords : ∀ relieved : Bool, relieved = !(t.unions effective members).isEmpty →
    Pairs L (a.relieve relieved) (b.relieve relieved) E
      (t.applyKeywords w relieved effective subject members)
      (t'.applyKeywords w' relieved effective subject others)

theorem PairedNodes.paired (h : PairedNodes L E t t' w w' effective subject members others a b)
    (happend : ∀ {vs ws vs' ws'}, E vs ws → E vs' ws' → E (vs ++ vs') (ws ++ ws'))
    (ha : a.relieve false = a) (hb : b.relieve false = b) {m n : Memory} (hmem : L.memories m n) :
    ∃ relieved, Paired L (a.relieve relieved) (b.relieve relieved) E
      (t.applyMembers w effective subject members (a.remember m))
      (t'.applyMembers w' effective subject others (b.remember n)) := by
  have hunions := h.unions m n hmem
  have hkeywords (unknown unknown' : List Violation) (hunknown : E unknown unknown') :
      Pairs L (a.relieve (!(t.unions effective members).isEmpty))
        (b.relieve (!(t.unions effective members).isEmpty)) E
        (do return unknown ++ (← t.applyKeywords w (!(t.unions effective members).isEmpty)
          effective subject members))
        (do return unknown' ++ (← t'.applyKeywords w' (!(t.unions effective members).isEmpty)
          effective subject others)) :=
    .map (h.keywords _ rfl) fun _ _ hothers => happend hunknown hothers
  -- It is known before the check of the unions whether branches are relieved, but the frame is only
  -- changed after it, so that a failure of the check leaves the frame unchanged.
  unfold applyMembers
  dsimp only
  rw [h.same]
  rcases hleft : Walk.collect (Ban.onBranches w effective subject) (t.unions effective members)
    (a.remember m) with ⟨r, s'⟩
  rcases hright : Walk.collect (Ban.onBranches w' effective subject) (t'.unions effective others)
    (b.remember n) with ⟨r', u'⟩
  rw [hleft, hright] at hunions
  cases hunions with
  | ok hunknown hmem' =>
      refine ⟨!(t.unions effective members).isEmpty, ?_⟩
      rw [bind_of_ok hleft, bind_of_ok hright]
      exact hkeywords _ _ hunknown _ _ hmem'
  | error hmem' h =>
      refine ⟨false, ?_⟩
      rw [bind_of_error hleft, bind_of_error hright, ha, hb]
      exact .error hmem' h
  | left h =>
      rw [bind_of_error hleft]
      exact ⟨false, .left h⟩
  | right h =>
      rw [bind_of_error hright]
      exact ⟨false, .right h⟩

/-- Applying a node, in terms of its inside. -/
theorem applySchema_apply {own : Option Url} {s : WalkState}
    (hown : declaredScope members s.scopes = .ok own) (m : Memory) :
    t.applySchema w subject (.object members) override (s.remember m) =
      let run := t.applyMembers w (effectiveBan members override s.frame.ban) subject members
        ((s.within members override own false).remember m)
      (run.1, outside s own run.2) := by
  rw [applySchema_of_scope (s := s.remember m) subject override hown, inNode_apply]
  rfl

/-- The results of two nodes with the same scope and flag correspond in two settings if they do so
inside the nodes. -/
theorem pairs_applySchema_across
    (happend : ∀ {vs ws vs' ws'}, E vs ws → E vs' ws' → E (vs ++ vs') (ws ++ ws'))
    (hscopes : declaredScope members a.scopes = declaredScope others b.scopes)
    (heffective : effectiveBan members override a.frame.ban =
      effectiveBan others override b.frame.ban)
    (herror : ∀ e, declaredScope members a.scopes = .error e → L.both (.schema e))
    (hinside : ∀ scope, declaredScope members a.scopes = .ok scope →
      PairedNodes L E t t' w w' (effectiveBan members override a.frame.ban) subject members others
        (a.within members override scope false) (b.within others override scope false)) :
    Pairs L a b E (t.applySchema w subject (.object members) override)
      (t'.applySchema w' subject (.object others) override) := by
  intro m n hmem
  cases hscope : declaredScope members a.scopes with
  | error e =>
      rw [applySchema_of_error (s := a.remember m) subject override hscope,
        applySchema_of_error (s := b.remember n) subject override (hscopes ▸ hscope)]
      exact .error hmem (herror e hscope)
  | ok scope =>
      obtain ⟨relieved, hpaired⟩ := (hinside scope hscope).paired happend rfl rfl hmem
      rw [applySchema_apply hscope, applySchema_apply (hscopes ▸ hscope), ← heffective]
      exact hpaired.leave (f := outside a scope) (g := outside b scope)
        (outside_within a scope relieved) (outside_within b scope relieved)

/-- The steps of a node from the inside, in two settings that check the same unions. -/
structure LinkedNodes (L : Link) (t t' : Setting) (w w' : Walker) (effective : Bool)
    (subject : Subject) (members : Json.Members) (a b : WalkState) : Prop where
  same : t'.unions effective members = t.unions effective members
  unions : Linked L a b
    (Walk.collect (Ban.onBranches w effective subject) (t.unions effective members))
    (Walk.collect (Ban.onBranches w' effective subject) (t.unions effective members))
  keywords : ∀ relieved : Bool, relieved = !(t.unions effective members).isEmpty →
    Linked L (a.relieve relieved) (b.relieve relieved)
      (t.applyKeywords w relieved effective subject members)
      (t'.applyKeywords w' relieved effective subject members)

theorem LinkedNodes.nodes (h : LinkedNodes L t t' w w' effective subject members a b) :
    PairedNodes L (· = ·) t t' w w' effective subject members members a b where
  same := by rw [h.same]
  unions := by
    rw [h.same]
    exact h.unions.pairs
  keywords relieved hrelieved := (h.keywords relieved hrelieved).pairs

/-- Two settings agree on a node if they agree inside it. -/
theorem linked_applySchema_across
    (hscopes : declaredScope members a.scopes = declaredScope members b.scopes)
    (hframes : a.frame = b.frame)
    (herror : ∀ e, declaredScope members a.scopes = .error e → L.both (.schema e))
    (hinside : ∀ scope, declaredScope members a.scopes = .ok scope →
      LinkedNodes L t t' w w' (effectiveBan members override a.frame.ban) subject members
        (a.within members override scope false) (b.within members override scope false)) :
    Linked L a b (t.applySchema w subject (.object members) override)
      (t'.applySchema w' subject (.object members) override) :=
  linked_iff_pairs.mpr <| pairs_applySchema_across
    (fun hfirst hmore => by rw [hfirst, hmore]) hscopes (by rw [hframes]) herror
    fun scope hscope => (hinside scope hscope).nodes

/-- The steps of a node from the inside, in two walks. Branches are relieved only if the ban is in
force. -/
structure LinkedNode (L : Link) (t : Setting) (w w' : Walker) (effective : Bool) (subject : Subject)
    (members : Json.Members) (a b : WalkState) : Prop where
  unions : Linked L a b
    (Walk.collect (Ban.onBranches w effective subject) (t.unions effective members))
    (Walk.collect (Ban.onBranches w' effective subject) (t.unions effective members))
  keywords : ∀ relieved : Bool, (relieved = true → effective = true) →
    Linked L (a.relieve relieved) (b.relieve relieved)
      (t.applyKeywords w relieved effective subject members)
      (t.applyKeywords w' relieved effective subject members)

@[simp] theorem unions_false (members : Json.Members) : t.unions false members = [] := by
  simp [unions]

/-- If the ban is off, a node only runs its keywords. -/
theorem applyMembers_off (s : WalkState) :
    t.applyMembers w false subject members s =
      t.applyKeywords w false false subject members (s.relieve false) := by
  unfold applyMembers
  rw [unions_false]
  show Walk.bind (t.applyKeywords w false false subject members) _ (s.relieve false) = _
  unfold Walk.bind
  rcases t.applyKeywords w false false subject members (s.relieve false) with ⟨e | vs, s'⟩
  · rfl
  · rfl

theorem LinkedNode.nodes (h : LinkedNode L t w w' effective subject members a b) :
    LinkedNodes L t t w w' effective subject members a b where
  same := rfl
  unions := h.unions
  keywords relieved hrelieved := h.keywords relieved fun htrue => by
    cases effective with
    | true => rfl
    | false => simp [hrelieved] at htrue

/-- Two walkers agree on a node if they agree inside it. -/
theorem linked_applySchema_of_inside
    (hscopes : declaredScope members a.scopes = declaredScope members b.scopes)
    (hframes : a.frame = b.frame)
    (herror : ∀ e, declaredScope members a.scopes = .error e → L.both (.schema e))
    (hinside : ∀ scope, declaredScope members a.scopes = .ok scope →
      LinkedNode L t w w' (effectiveBan members override a.frame.ban) subject members
        (a.within members override scope false) (b.within members override scope false)) :
    Linked L a b (t.applySchema w subject (.object members) override)
      (t.applySchema w' subject (.object members) override) :=
  linked_applySchema_across hscopes hframes herror fun scope hscope => (hinside scope hscope).nodes

theorem linked_applySchema (hraises : ∀ e, (t.reachOf subject members).Raises e → L.both e)
    (hregex : ∀ pattern s t, Linked L s t (Walk.regex pattern) (Walk.regex pattern))
    (ht : t.registry = .ofDraft draft)
    (hscopes : declaredScope members a.scopes = declaredScope members b.scopes)
    (hframes : a.frame = b.frame)
    (herror : ∀ e, declaredScope members a.scopes = .error e → L.both (.schema e))
    (hw : ∀ scope, declaredScope members a.scopes = .ok scope → ∀ relieved : Bool,
      (relieved = true → effectiveBan members override a.frame.ban = true) →
        Walker.Linked L (a.within members override scope relieved)
          (b.within members override scope relieved) (t.reachOf subject members) w w') :
    Linked L a b (t.applySchema w subject (.object members) override)
      (t.applySchema w' subject (.object members) override) :=
  linked_applySchema_of_inside hscopes hframes herror fun scope hscope =>
    { unions := (program_unions (r := t.reachOf subject members) (fun _ => id) _ _
        subject).linked_of_raises hraises (fun pattern => hregex pattern _ _)
        (hw scope hscope false nofun)
      keywords := fun relieved hrelieved =>
        (program_applyKeywords ht relieved _).linked_of_raises hraises
          (fun pattern => hregex pattern _ _) (hw scope hscope relieved hrelieved) }

/-- Applying a value that is no object changes nothing. -/
theorem linked_applySchema_other {schema : Json} (h : ∀ members, schema ≠ .object members) :
    Linked L a b (t.applySchema w subject schema override)
      (t'.applySchema w' subject schema override) := by
  cases schema with
  | object members => exact absurd rfl (h members)
  | _ => exact .pure _

/-- The conditions for two walkers with the check for cycles to agree inside a node, from the same
memory, for which `I` holds. Their resolvers only have to agree on the references of the node. -/
structure Alike (t : Setting) (I : Memory → Prop) (both : Failure → Prop) (s : WalkState)
    (subject : Subject) (members : Json.Members) (w w' : Walker) : Prop where
  resolve : ∀ reference m, Names members reference → I m →
    I { m with cache := ((w.resolver.resolve reference s.scopes).run m.cache).2 }
  agree : ∀ reference m, Names members reference → I m →
    (w'.resolver.resolve reference s.scopes).run m.cache =
      (w.resolver.resolve reference s.scopes).run m.cache
  visit : ∀ inner sub override, subject.Near inner → t.Inside members sub →
    Linked (.same I both) s s (w.visit inner sub override) (w'.visit inner sub override)
  follow : ∀ reference target m, Json.Members.find? refKeyword members = some (.string reference) →
    I m → ((w.resolver.resolve reference s.scopes).run m.cache).1 = .ok target →
    (target.url.write, subject.place) ∉ s.following →
    Linked (.same I both) (s.jump target subject) (s.jump target subject)
      (w.visit subject target.schema s.frame.refOverride)
      (w'.visit subject target.schema s.frame.refOverride)

variable {I : Memory → Prop} {both : Failure → Prop} {s : WalkState}

theorem Alike.linked (h : t.Alike I both s subject members w w') (hschema : ∀ e, both (.schema e))
    (hcycles : w.findsCycles = true) (hcycles' : w'.findsCycles = true) :
    Walker.Linked (.same I both) s s (t.reachOf subject members) w w' where
  resolve reference hlook := linked_resolve_same (fun m => h.resolve reference m (.inr hlook))
    (fun m => h.agree reference m (.inr hlook)) hschema
  descend inner sub hnear hinside := h.visit inner sub none hnear hinside
  branch sub hinside := linked_branch rfl (h.visit subject sub _ .here hinside)
  refer reference hreference := by
    refine .bind (linked_resolve_same (fun m => h.resolve reference m (.inl hreference))
      (fun m => h.agree reference m (.inl hreference)) hschema) fun target m _ hmem hrun _ => ?_
    refine linked_follow_of_findsCycles hcycles hcycles' hschema fun hnew => ?_
    exact h.follow reference target m hreference hmem.2 (resolve_eq_ok hrun) hnew

/-- Two walkers agree on a node if they satisfy these conditions inside it. -/
theorem linked_applySchema_of_alike {schema : Json} (ht : t.registry = .ofDraft draft)
    (hI : ∀ pattern m, I m → I (m.compile pattern).2) (hschema : ∀ e, both (.schema e))
    (hraises : ∀ members, schema = .object members →
      ∀ e, (t.reachOf subject members).Raises e → both e)
    (hcycles : w.findsCycles = true) (hcycles' : w'.findsCycles = true)
    (h : ∀ members, schema = .object members → ∀ own relieved,
      declaredScope members s.scopes = .ok own →
      t.Alike I both (s.within members override own relieved) subject members w w') :
    Linked (.same I both) s s (t.applySchema w subject schema override)
      (t.applySchema w' subject schema override) := by
  by_cases hobject : ∃ members, schema = .object members
  · obtain ⟨members, rfl⟩ := hobject
    refine linked_applySchema (hraises members rfl)
      (fun pattern _ _ => linked_regex_same (hI pattern) (hschema _)) ht rfl rfl
      (fun e _ => hschema e) ?_
    intro own hown relieved _
    exact (h members rfl own relieved hown).linked hschema hcycles hcycles'
  · exact linked_applySchema_other fun members heq => hobject ⟨members, heq⟩

end Setting

end SchemaCheck
