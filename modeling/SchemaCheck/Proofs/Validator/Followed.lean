import SchemaCheck.Proofs.Validator.Independence
import SchemaCheck.Proofs.Visit.Course
import SchemaCheck.Proofs.Visit.Union

/-!
References in branches. The reference of a branch is resolved twice: by the check of the union, in
the scope of the node around the branches, and when the branch is applied, in the scope of the
branch itself. Both have the same target if the reference joined with either scope is the same
locator, in particular if the branch has no `id`.
-/

namespace SchemaCheck

open Walk

namespace Setting

variable {t : Setting} {draft : Draft} {root : Json} {s after : WalkState} {w : Walker}
variable {subject : Subject} {members : Json.Members} {override : Option Bool}
variable {own : Option Url} {reference : String} {target : Target}

/-- The node, applied in a given state, resolves its reference to the target in the state `after`,
when the unions of its own branches have been checked. -/
inductive Follows (t : Setting) (w : Walker) (subject : Subject) (members : Json.Members)
    (override : Option Bool) (s : WalkState) (target : Target) (after : WalkState) : Prop
  | intro {own : Option Url} {effective : Bool} {reference : String} {unknown : List Violation}
      {inner : WalkState} :
      declaredScope members s.scopes = .ok own →
      effectiveBan members override s.frame.ban = effective →
      Json.Members.find? refKeyword members = some (.string reference) →
      Walk.collect (Ban.onBranches w effective subject) (t.unions effective members)
        (s.within members override own false) = (.ok unknown, inner) →
      w.resolve reference (inner.relieve !(t.unions effective members).isEmpty) =
        (.ok target, after) →
      Follows t w subject members override s target after

/-- The check of unions uses the target of the reference in a branch. -/
theorem branchTarget_of_reference (w : Walker)
    (href : Json.Members.find? refKeyword members = some (.string reference)) :
    Ban.branchTarget w (.object members) = do return (← w.resolve reference).schema := by
  have hget : Json.get? "$ref" (.object members) = some (.string reference) := href
  unfold Ban.branchTarget
  rw [hget]
  rfl

theorem applyKeywords_of_reference (w : Walker) (subject : Subject) (ht : t.registry = .ofDraft draft)
    (href : Json.Members.find? refKeyword members = some (.string reference)) (checked effective : Bool)
    (u : WalkState) :
    (t.applyKeywords w checked effective subject members u).1 =
      (w.refer reference subject u).1.map
        (List.map (·.fill refKeyword (.string reference) subject.value (.object members))) := by
  unfold applyKeywords
  rw [href]
  dsimp only
  unfold applyKeyword
  rw [lookup?_reference ht]
  exact bind_fst _ (fun _ _ => rfl) u

/-- The result of the node is then the result of following the reference. -/
theorem Follows.result (ht : t.registry = .ofDraft draft)
    (href : Json.Members.find? refKeyword members = some (.string reference))
    (h : t.Follows w subject members override s target after) :
    ∃ unknown, (t.applySchema w subject (.object members) override s).1 =
      (w.follow reference target subject after).1.map fun vs => unknown ++
        vs.map (·.fill refKeyword (.string reference) subject.value (.object members)) := by
  cases h with
  | @intro own effective reference' unknown inner hown heffective href' hunions hresolve =>
      obtain rfl : reference = reference' := Json.string.inj (Option.some.inj (href.symm.trans href'))
      subst heffective
      refine ⟨unknown, ?_⟩
      have hfollow : w.refer reference subject (inner.relieve _) =
          w.follow reference target subject after := bind_of_ok hresolve
      have hrun : (t.applySchema w subject (.object members) override s).1 =
          (t.applyMembers w (effectiveBan members override s.frame.ban) subject members
            (s.within members override own false)).1 :=
        (congrArg Prod.fst (applySchema_apply hown s.memory)).trans rfl
      rw [hrun]
      unfold applyMembers
      dsimp only
      rw [bind_of_ok hunions]
      show ((t.applyKeywords w _ _ subject members >>= fun vs => Pure.pure (unknown ++ vs))
        (inner.relieve _)).1 = _
      rw [bind_fst (unknown ++ ·) fun _ _ => rfl, applyKeywords_of_reference w subject ht href, hfollow]
      cases (w.follow reference target subject after).1 <;> rfl

theorem exists_follows_of_ok (ht : t.registry = .ofDraft draft)
    (hown : declaredScope members s.scopes = .ok own)
    (href : Json.Members.find? refKeyword members = some (.string reference))
    {violations : List Violation}
    (hrun : (t.applySchema w subject (.object members) override s).1 = .ok violations) :
    ∃ target after, t.Follows w subject members override s target after := by
  obtain ⟨unknown, others, inner, inner', -, -, hunions, hkeywords⟩ :=
    exists_of_applySchema_ok (m := s.memory) hown rfl (Prod.ext hrun rfl)
  have hrefer := applyKeywords_of_reference w subject ht href
    (!(t.unions (effectiveBan members override s.frame.ban) members).isEmpty)
    (effectiveBan members override s.frame.ban)
    (inner.relieve !(t.unions (effectiveBan members override s.frame.ban) members).isEmpty)
  rw [hkeywords] at hrefer
  rcases hresolve : w.resolve reference
      (inner.relieve !(t.unions (effectiveBan members override s.frame.ban) members).isEmpty) with
    ⟨e | target, after⟩
  · have hfailed : w.refer reference subject (inner.relieve _) = (.error e, after) :=
      bind_of_error hresolve
    rw [hfailed] at hrefer
    cases hrefer
  · exact ⟨target, after, .intro hown rfl href hunions hresolve⟩

/-- In a sound memory the target is the one for a new cache, in the scope of the node. -/
theorem Follows.resolves (hw : w.Steady (.alike t.resolver root) t.resolver) (hs : s.scopes.Regular)
    (hm : s.memory.Sound t.resolver root) (hown : declaredScope members s.scopes = .ok own)
    (href : Json.Members.find? refKeyword members = some (.string reference))
    (h : t.Follows w subject members override s target after) :
    after.scopes.current = own.getD s.scopes.current ∧
      ((t.resolver.resolve reference (.ofBase (own.getD s.scopes.current))).run
        (t.resolver.seed root)).1 = .ok target := by
  cases h with
  | @intro own' effective reference' unknown inner hown' _ href' hunions hresolve =>
      obtain rfl : reference = reference' := Json.string.inj (Option.some.inj (href.symm.trans href'))
      obtain rfl : own' = own := Except.ok.inj (hown'.symm.trans hown)
      have hstart : (s.within members override own' false).remember s.memory =
          s.within members override own' false := by
        cases own' <;> rfl
      have hrelieve (n : Memory) (relieved : Bool) :
          ((s.within members override own' false).remember n).relieve relieved =
            (s.within members override own' relieved).remember n := by
        cases own' <;> rfl
      have hinner (relieved : Bool) : (s.within members override own' relieved).scopes.Regular :=
        regular_within hs hown relieved
      have hchecked : Answers (·.Sound t.resolver root) (s.within members override own' false)
          (fun _ => True)
          (Walk.collect (Ban.onBranches w effective subject) (t.unions effective members)) :=
        answers_of_alike ((client_unions _ _ subject members).alike hw (hinner false))
          fun _ _ _ => trivial
      obtain ⟨-, n, hn, rfl⟩ := hchecked s.memory hm unknown inner (hstart.symm ▸ hunions)
      rw [hrelieve] at hresolve
      obtain ⟨hleads, n', -, rfl⟩ :=
        answers_resolve hw.1 (hinner _) reference n hn target after hresolve
      have hcurrent := WalkState.current_within s members override own' !(t.unions effective members).isEmpty
      exact ⟨hcurrent, hcurrent ▸ hleads⟩

/-- In two scopes a reference has the same target iff joining it with either scope gives the same
locator. -/
theorem resolve_eq_iff_join {other : Url} (hw : w.resolver = t.resolver)
    (hs : s.scopes.Regular) (hm : s.memory.Sound t.resolver root)
    (hleads : ((t.resolver.resolve reference (.ofBase other)).run (t.resolver.seed root)).1 =
      .ok target) :
    (w.resolve reference s).1 = .ok target ↔
      s.scopes.current.join reference = other.join reference := by
  have hother : other.join reference = .ok target.url := (Resolver.resolveUrl_of_resolve hleads).1
  constructor
  · intro h
    rw [hother]
    exact (Resolver.resolveUrl_of_resolve (resolve_eq_ok h)).1
  · intro hjoin
    have hsame : t.resolver.resolve reference (.ofBase s.scopes.current) =
        t.resolver.resolve reference (.ofBase other) := by
      unfold Resolver.resolve
      rw [show (ScopeStack.ofBase s.scopes.current).current = s.scopes.current from rfl, hjoin]
      rfl
    rw [resolve_apply, hw, (Resolver.sound_resolve hm.cache hs.current reference).1, hsame, hleads]
    rfl

end Setting

/-- Whenever a validation applies a branch with a reference, the schema that the check of the union
looks at is the one that the branch is validated by iff joining the reference with the scope of the
surrounding node and with that of the branch gives the same locator. For a branch without an `id`
the two scopes are equal. The memory may have changed between the check and the application. -/
theorem Options.checks_followed_target (o : Options) (hvocabulary : o.registry = none) (schema : Json)
    (base : Url) :
    let v := o.assemble schema base
    ∀ (s : WalkState) (m : Memory) (members : Json.Members) (reference : String)
      (override : Option Bool) (own : Option Url),
      s.scopes.Regular → s.memory.Sound v.setting.resolver v.schema →
      m.Sound v.setting.resolver v.schema →
      Json.Members.find? Setting.refKeyword members = some (.string reference) →
      Setting.declaredScope members s.scopes = .ok own →
      ∀ (depth : Nat) (subject : Subject),
        let w : Walker := ⟨v.setting.resolver, v.setting.findsCycles, v.setting.visit depth⟩
        let run := (v.setting.visit (depth + 1) subject (.object members) override s).1
        let scope := own.getD s.scopes.current
        (Ban.branchTarget w (.object members) = do return (← w.resolve reference).schema) ∧
          (∀ violations, run = .ok violations →
            ∃ followed after, v.setting.Follows w subject members override s followed after) ∧
          ∀ followed after, v.setting.Follows w subject members override s followed after →
            (∃ unknown, run = (w.follow reference followed subject after).1.map fun vs => unknown ++
              vs.map (·.fill Setting.refKeyword (.string reference) subject.value
                (.object members))) ∧
            after.scopes.current = scope ∧ scope.join reference = .ok followed.url ∧
            ((w.resolve reference (s.remember m)).1 = .ok followed ↔
              s.scopes.current.join reference = scope.join reference) := by
  intro v s m members reference override own hs hm hm' href hown depth subject w run scope
  have ht : v.setting.registry = .ofDraft o.draft := registry_assemble hvocabulary schema base
  refine ⟨Setting.branchTarget_of_reference w href,
    fun violations hrun => Setting.exists_follows_of_ok ht hown href hrun,
    fun followed after hfollows => ?_⟩
  obtain ⟨hscope, hleads⟩ := hfollows.resolves
    (Setting.steady_visit (Setting.lawful_ofDraft ht) v.schema depth) hs hm hown href
  exact ⟨hfollows.result ht href, hscope, (Resolver.resolveUrl_of_resolve hleads).1,
    Setting.resolve_eq_iff_join (s := s.remember m) rfl hs hm' hleads⟩

/-- A branch with an `id` that leaves the reference in the same document. -/
theorem Options.checks_followed_target_named :
    let o : Options := { standard .offline with depth := 9 }
    let named : Json := .object [("properties", .object [("name", .object [])])]
    let branch : Json.Members := [("$ref", .string "#/definitions/named"), ("id", .string "#person")]
    let v := o.assemble (.object [("allOf", .array [.object branch]),
      ("definitions", .object [("named", named)])]) Validator.defaultBase
    let w : Walker := ⟨v.setting.resolver, v.setting.findsCycles, v.setting.visit 7⟩
    let s := v.start .standard v.memory
    let subject := Subject.root (.object [("name", .null)])
    ∃ followed after, v.setting.Follows w subject branch (some false) s followed after ∧
      (w.resolve "#/definitions/named" (s.remember v.memory)).1 = .ok followed := by
  intro o named branch v w s subject
  have hbase : v.setting.resolver.base.Regular := Validator.regular_defaultBase
  have hlawful : v.setting.registry.Lawful := (Registry.preset_ofDraft .draft4).lawful
  have hsound := (Validator.Recalls.first (v := v)).sound hlawful hbase
  have hown : Setting.declaredScope branch s.scopes =
      .ok (some { Validator.defaultBase with fragment := some "person" }) := by
    decide +kernel
  have hchecks := o.checks_followed_target rfl _ Validator.defaultBase s v.memory branch
    "#/definitions/named" (some false) _ (.ofBase hbase) hsound hsound rfl hown 7 subject
  have hcount : ((v.setting.visit 8 subject (.object branch) (some false) s).1.map List.length) =
      .ok 0 := by
    decide +kernel
  cases hrun : (v.setting.visit 8 subject (.object branch) (some false) s).1 with
  | error e =>
      rw [hrun] at hcount
      cases hcount
  | ok violations =>
      obtain ⟨followed, after, hfollows⟩ := hchecks.2.1 violations hrun
      exact ⟨followed, after, hfollows, (hchecks.2.2 followed after hfollows).2.2.2.mpr rfl⟩

/-- A branch with an `id` that moves its reference to another document. The check of the union
accepts the name that is declared there, but the schema that the branch is validated by does not
declare it. -/
theorem Options.checks_other_target :
    let base : Url := ⟨"memory", some ⟨"", "", none⟩, .rooted ["root.json"], none, none⟩
    let near : Url := { base with path := .rooted ["x.json"] }
    let far : Url := { base with path := .rooted ["sub", "x.json"] }
    let served : List (Url × String) :=
      [(near, "\x7b\"properties\":\x7b\"a\":\x7b\"type\":\"string\"\x7d\x7d\x7d"),
        (far, "\x7b\"properties\":\x7b\"b\":\x7b\"type\":\"integer\"\x7d\x7d\x7d")]
    let o : Options := { standard (fun u =>
      match served.find? (·.1 = u) with
      | some (_, text) => .ok (Utf8.encodeChars text.toList)
      | none => .error (.fetch u.write "offline")) with depth := 9 }
    let branch : Json.Members := [("$ref", .string "x.json"), ("id", .string "sub/")]
    let v := o.assemble (.object [("allOf", .array [.object branch])]) base
    let w : Walker := ⟨v.setting.resolver, v.setting.findsCycles, v.setting.visit 7⟩
    let s := v.start .standard v.memory
    let instance_ : Json := .object [("a", .null)]
    (w.resolve "x.json" s).1.map (·.url) = .ok near ∧
      (∃ followed after, v.setting.Follows w (.root instance_) branch (some false) s followed after ∧
        followed.url = far) ∧
      ((v.violations instance_ .standard).outcome v.memory).map List.length = .ok 0 := by
  intro base near far served o branch v w s instance_
  have hparse : Url.parse "memory:///root.json" = .ok base := by decide +kernel
  have hbase : v.setting.resolver.base.Regular := Url.parse_regular hparse
  have ht : v.setting.registry = .ofDraft .draft4 := rfl
  have hlawful : v.setting.registry.Lawful := Setting.lawful_ofDraft ht
  have hown : Setting.declaredScope branch s.scopes =
      .ok (some { base with path := .rooted ["sub", ""] }) := by
    decide +kernel
  have hcount : ((v.setting.visit 8 (.root instance_) (.object branch) (some false) s).1.map
      List.length) = .ok 0 := by
    decide +kernel
  refine ⟨by decide +kernel, ?_, by decide +kernel⟩
  cases hrun : (v.setting.visit 8 (.root instance_) (.object branch) (some false) s).1 with
  | error e =>
      rw [hrun] at hcount
      cases hcount
  | ok violations =>
      obtain ⟨followed, after, hfollows⟩ := Setting.exists_follows_of_ok (w := w) ht hown rfl hrun
      have hleads := (hfollows.resolves (Setting.steady_visit hlawful v.schema 7) (.ofBase hbase)
        ((Validator.Recalls.first (v := v)).sound hlawful hbase) hown rfl).2
      have hjoin := (Resolver.resolveUrl_of_resolve hleads).1
      have hfar : Url.join { base with path := .rooted ["sub", ""] } "x.json" = .ok far := by
        decide +kernel
      exact ⟨followed, after, hfollows, Except.ok.inj (hjoin.symm.trans hfar)⟩

end SchemaCheck
