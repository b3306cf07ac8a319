import SchemaCheck.Proofs.Keyword.Relax
import SchemaCheck.Proofs.Visit.Course
import SchemaCheck.Proofs.Visit.Union

/-!
A walk compared with the walk with the ban off. If no reachable schema negates another one, the ban
only makes a walk stricter. The second walk has no ban in its frame down to a node with a flag of
its own; from there on both walks do the same.
-/

namespace SchemaCheck

open Walk Violation

/-- The state in which nothing has switched the ban on. -/
def WalkState.freed (s : WalkState) : WalkState :=
  { s with frame := .free }

namespace Setting

/-- No reachable schema has a negation. -/
def Unnegated (t : Setting) (root : Json) : Prop :=
  ∀ scope members, t.Reachable root scope (.object members) →
    ∀ name ∈ Keyword.negations, Json.Members.find? name members = none

/-- From sound memories, the second walk with the ban off is more lenient than the first one. -/
abbrev Eases (t : Setting) (root : Json) (s : WalkState) (x y : Walk (List Violation)) : Prop :=
  Walk.Relaxes (·.Sound t.resolver root) (·.Sound t.resolver root) s s.freed Clears x y

variable {t : Setting} {draft : Draft} {root schema : Json} {w w' : Walker} {s u : WalkState}
variable {I J : Memory → Prop} {subject : Subject} {members : Json.Members}
variable {override : Option Bool}

/-- Inside a node without a flag nothing has switched the ban on either. -/
theorem freed_within (hown : ownBan members = none) (own : Option Url) (relieved : Bool) :
    (s.within members override own relieved).freed = s.freed.within members none own false := by
  have hframe : (s.freed.within members none own false).frame = .free := by
    rw [frame_within, frameOf, hown]
    rfl
  cases own with
  | none => exact (congrArg (fun frame => { s with frame }) hframe).symm
  | some scope =>
      exact (congrArg (fun frame => { s with scopes := s.scopes.push scope, frame }) hframe).symm

/-- A node with a flag of its own does not depend on the inherited one. -/
theorem applySchema_of_flagged {flag : Bool} (hown : ownBan members = some flag) :
    t.applySchema w subject (.object members) none s.freed =
      ((t.applySchema w subject (.object members) override s).1,
        (t.applySchema w subject (.object members) override s).2.freed) := by
  have hframe (given : Option Bool) (inherited : Bool) :
      frameOf members given inherited = ⟨flag, none, false⟩ := by
    rw [frameOf, hown]
    rfl
  have heffective (given : Option Bool) (inherited : Bool) :
      effectiveBan members given inherited = flag := by
    rw [effectiveBan, hown]
    rfl
  cases hscope : declaredScope members s.scopes with
  | error e =>
      rw [applySchema_of_error (s := s) subject override hscope,
        applySchema_of_error (s := s.freed) subject none hscope]
  | ok own =>
      rw [applySchema_of_scope (s := s) subject override hscope,
        applySchema_of_scope (s := s.freed) subject none hscope, inNode_apply, inNode_apply, hframe,
        hframe, heffective, heffective]
      rfl

/-- At a node with a flag, the two walks differ in their memories only. -/
theorem relaxes_of_flagged {flag : Bool} (ht : t.registry.Lawful) (hs : s.scopes.Regular)
    (hown : ownBan members = some flag) (depth : Nat) :
    t.Eases root s (t.visit (depth + 1) subject (.object members) override)
      (t.visit (depth + 1) subject (.object members) none) := by
  have halike := Linked.relaxes
    (alike_visit ht root (depth + 1) hs subject (.object members) override) (fun _ _ => .rfl)
    fun _ => id
  exact (halike.mono fun _ _ heq => heq ▸ .refl _).leave (f := id) (g := WalkState.freed)
    (fun _ => rfl) (fun n => applySchema_of_flagged (s := s.remember n) hown) (fun _ => rfl)
    fun _ => rfl

/-- At a node without a flag, only the first run may check its unions. -/
theorem relaxes_applySchema (hown : ownBan members = none)
    (hunions : ∀ own, declaredScope members s.scopes = .ok own → ∀ effective,
      Answers I (s.within members override own false) (fun _ => True)
        (Walk.collect (Ban.onBranches w effective subject) (t.unions effective members)))
    (hkeywords : ∀ own, declaredScope members s.scopes = .ok own → ∀ effective relieved,
      Walk.Relaxes I J (s.within members override own relieved)
        (s.within members override own relieved).freed Clears
        (t.applyKeywords w relieved effective subject members)
        (t.applyKeywords w' false false subject members)) :
    Walk.Relaxes I J s s.freed Clears (t.applySchema w subject (.object members) override)
      (t.applySchema w' subject (.object members) none) := by
  intro m n hm hn vs s' hrun
  cases hscope : declaredScope members s.scopes with
  | error e =>
      rw [applySchema_of_error (s := s.remember m) subject override hscope] at hrun
      cases hrun
  | ok own =>
      obtain ⟨unknown, others, inner, inner', rfl, rfl, hchecked, hothers⟩ :=
        exists_of_applySchema_ok hscope rfl hrun
      obtain ⟨-, m', hm', rfl⟩ := hunions own hscope _ m hm unknown _ hchecked
      obtain ⟨ws, m'', n', hclears, hm'', hn', rfl, hfreed⟩ :=
        hkeywords own hscope _ _ m' n hm' hn others _ hothers
      refine ⟨ws, m'', n', hclears.append_left unknown, hm'', hn', outside_within s own _ m'', ?_⟩
      have hoff : effectiveBan members none s.freed.frame.ban = false := by
        rw [effectiveBan, hown]
        rfl
      rw [freed_within hown] at hfreed
      rw [applySchema_apply (s := s.freed) hscope, hoff, applyMembers_off]
      exact (congrArg (fun run => (run.1, outside s.freed own run.2)) hfreed).trans
        (congrArg (Prod.mk _) (outside_within s.freed own false n'))

theorem relaxes_applyKeyword {name : String} {declared : Json}
    (h : ∀ k, t.registry.lookup? name = some k →
      Walk.Relaxes I J s u Clears (k w declared subject members) (k w' declared subject members)) :
    Walk.Relaxes I J s u Clears (t.applyKeyword w name declared subject members)
      (t.applyKeyword w' name declared subject members) := by
  unfold applyKeyword
  cases hlookup : t.registry.lookup? name with
  | none => exact .pure (.refl [])
  | some k => exact (h k hlookup).map fun _ _ hclears => hclears.map

/-- The keywords of a node without negations, where the second run has the ban off. -/
theorem relaxes_applyKeywords (ht : t.registry = .ofDraft draft) (hI : Memory.Versed I)
    (hJ : Memory.Versed J) {checked effective : Bool}
    (hfree : ∀ name ∈ Keyword.negations, Json.Members.find? name members = none)
    (hban : Answers I s (fun _ => True) (t.applyBan w checked effective subject members))
    (hw : Walker.Relaxes I J s u subject (t.Inside members) w w')
    (hrefer : ∀ reference, Json.Members.find? refKeyword members = some (.string reference) →
      Walk.Relaxes I J s u Clears (w.refer reference subject) (w'.refer reference subject)) :
    Walk.Relaxes I J s u Clears (t.applyKeywords w checked effective subject members)
      (t.applyKeywords w' false false subject members) := by
  unfold applyKeywords
  cases hreference : Json.Members.find? refKeyword members with
  | some declared =>
      refine relaxes_applyKeyword fun k hlookup => ?_
      obtain rfl := Option.some.inj ((lookup?_reference ht).symm.trans hlookup)
      cases declared with
      | string reference => exact hrefer reference hreference
      | _ => exact .fail _ _
  | none =>
      rw [applyBan_off ht]
      refine .step_left hban fun plain => ?_
      refine Relaxes.map (.collect fun entry hentry => ?_) fun _ _ hclears =>
        hclears.append_left plain
      dsimp only
      split
      · exact .pure (.refl [])
      · refine relaxes_applyKeyword fun k hlookup => ?_
        have hk : Keyword.Relaxes entry.1 k := by
          refine Keyword.relaxes_of_lookup?_ofDraft (ht ▸ hlookup) (fun heq => ?_) fun hname => ?_
          · exact Json.Members.find?_eq_none (heq ▸ hreference) hentry
          · exact Json.Members.find?_eq_none (hfree _ hname) hentry
        refine hk hI hJ entry.2 subject members (hw.mono fun sub hsub => ?_)
        exact ⟨hreference, entry, hentry, by simp [Registry.contains, hlookup], hsub⟩

/-- A reference has the same target for any two sound memories. -/
theorem relaxes_resolve (hw : w.resolver = t.resolver) (hs : s.scopes.Regular)
    (reference : String) :
    Walk.Relaxes (·.Sound t.resolver root) (·.Sound t.resolver root) s s.freed
      (fun target other => other = target ∧
        ((t.resolver.resolve reference (.ofBase s.scopes.current)).run
          (t.resolver.seed root)).1 = .ok target)
      (w.resolve reference) (w.resolve reference) := by
  intro m n hm hn target s' hrun
  obtain ⟨hfresh, m', hm', rfl⟩ := answers_resolve hw hs reference m hm target s' hrun
  obtain ⟨hsame, hlearnt⟩ := Resolver.sound_resolve hn.cache hs.current reference
  refine ⟨target, m', { n with cache := _ }, ⟨rfl, hfresh⟩, hm', ⟨hlearnt, hn.compiled⟩, rfl, ?_⟩
  rw [resolve_apply, hw]
  show (((t.resolver.resolve reference s.scopes).run n.cache).1.mapError Failure.schema, _) = _
  rw [hsame, hfresh]
  rfl

/-- If the first run follows a reference, so does the second one. -/
theorem relaxes_follow {reference : String} {target : Target}
    (h : Walk.Relaxes I J (s.jump target subject) (s.jump target subject).freed Clears
      (w.visit subject target.schema s.frame.refOverride) (w.visit subject target.schema none)) :
    Walk.Relaxes I J s s.freed Clears (w.follow reference target subject)
      (w.follow reference target subject) := by
  by_cases hcircle : w.findsCycles ∧ s.following.contains (target.url.write, subject.place)
  · intro m n _ _ vs s' hrun
    rw [follow_of_circle (s := s.remember m) hcircle] at hrun
    cases hrun
  · let leave (s : WalkState) : WalkState :=
      { s with scopes := s.scopes.pop.2, following := s.following.tail }
    refine h.leave (f := leave) (g := leave) (fun m => ?_) (fun n => ?_) (fun _ => rfl) fun _ => rfl
    · rw [follow_apply, if_neg (show ¬ (_ ∧ (s.remember m).following.contains _) from hcircle)]
      rfl
    · rw [follow_apply, if_neg (show ¬ (_ ∧ (s.freed.remember n).following.contains _) from hcircle)]
      rfl

/-- In the second run a branch is applied like any other schema. -/
theorem relaxes_applyBranch {sub : Json}
    (h : Walk.Relaxes I J s s.freed Clears
      (w.visit subject sub (if s.frame.suppressBranchBan then some false else none))
      (w.visit subject sub none)) :
    Walk.Relaxes I J s s.freed Clears (w.applyBranch subject sub) (w.applyBranch subject sub) :=
  fun m n hm hn vs s' hrun => h m n hm hn vs s' hrun

/-- Inside a node, the schemas that are applied and the targets of references are reachable. -/
theorem relaxes_within (ht : t.registry = .ofDraft draft) (hfree : t.Unnegated root)
    (hw : w.Steady (.alike t.resolver root) t.resolver) (hs : s.scopes.Regular)
    (hreach : t.Reachable root s.scopes.current (.object members))
    (hvisit : ∀ {schema : Json} {s : WalkState}, s.scopes.Regular →
      t.Reachable root s.scopes.current schema → ∀ subject override,
        t.Eases root s (w.visit subject schema override) (w.visit subject schema none))
    {own : Option Url} (hscope : declaredScope members s.scopes = .ok own)
    (effective relieved : Bool) :
    t.Eases root (s.within members override own relieved)
      (t.applyKeywords w relieved effective subject members)
      (t.applyKeywords w false false subject members) := by
  have hinner : (s.within members override own relieved).scopes.Regular :=
    regular_within hs hscope relieved
  have hinside {sub : Json} (hsub : t.Inside members sub) :
      t.Reachable root (s.within members override own relieved).scopes.current sub :=
    reachable_iff.mpr (.tail (reachable_iff.mp hreach) (applies_inside hscope relieved hsub))
  have hban : Answers (·.Sound t.resolver root) (s.within members override own relieved)
      (fun _ => True) (t.applyBan w relieved effective subject members) :=
    answers_of_alike ((client_applyBan (lawful_ofDraft ht) _ _ _ _).alike hw hinner)
      fun _ _ _ => trivial
  refine relaxes_applyKeywords ht (Memory.versed_sound _ _) (Memory.versed_sound _ _)
    (hfree _ members hreach) hban ?_ fun reference hreference => ?_
  · exact {
      descend := fun inner sub _ hsub => hvisit hinner (hinside hsub) inner none
      branch := fun sub hsub => relaxes_applyBranch (hvisit hinner (hinside hsub) subject _) }
  · refine (relaxes_resolve hw.resolver hinner reference).bind ?_
    rintro _ target ⟨rfl, hfresh⟩
    have htarget := Url.join_regular hinner.current (Resolver.resolveUrl_of_resolve hfresh).1
    rw [WalkState.current_within] at hfresh
    have hnext : t.Reachable root
        ((s.within members override own relieved).jump target subject).scopes.current
        target.schema :=
      .target hreach ((declaredScope_congr rfl).trans hscope) hreference hfresh
    exact relaxes_follow (hvisit (hinner.push htarget) hnext subject _)

/-- If a walk finds no violations with the ban, it finds none without it, provided that no negation
is reachable. -/
theorem relaxes_visit (ht : t.registry = .ofDraft draft) (hfree : t.Unnegated root)
    (hs : s.scopes.Regular) (hreach : t.Reachable root s.scopes.current schema) (depth : Nat)
    (subject : Subject) (override : Option Bool) :
    t.Eases root s (t.visit depth subject schema override) (t.visit depth subject schema none) := by
  induction depth generalizing s schema subject override with
  | zero => exact .fail _ _
  | succ depth ih =>
      cases schema with
      | object members =>
          have hlawful := lawful_ofDraft ht
          have hsteady := steady_visit hlawful root depth
          cases hown : ownBan members with
          | some flag => exact relaxes_of_flagged hlawful hs hown depth
          | none =>
              refine relaxes_applySchema hown (fun own hscope effective => ?_)
                fun own hscope effective relieved =>
                  relaxes_within ht hfree hsteady hs hreach ih hscope effective relieved
              exact answers_of_alike ((client_unions _ _ subject members).alike hsteady
                (regular_within hs hscope false)) fun _ _ _ => trivial
      | _ => exact .pure (.refl [])

end Setting

end SchemaCheck
