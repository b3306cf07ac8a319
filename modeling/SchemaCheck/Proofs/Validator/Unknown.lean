import SchemaCheck.Proofs.Keyword.Unknown
import SchemaCheck.Proofs.Validator.Independence
import SchemaCheck.Proofs.Visit.Relief

/-!
The names that the ban reports for a node itself. A node without branches reports the names that it
does not declare. A node with branches reports, for each combinator, the names that no branch
declares, whether or not the node declares them itself.
-/

namespace SchemaCheck

open Walk

namespace Setting

variable {t : Setting} {draft : Draft} {root branch : Json} {s : WalkState} {w : Walker}
variable {subject : Subject} {members object : Json.Members} {override : Option Bool}
variable {own : Option Url} {effective : Bool}

/-- The schema that the ban reads for a branch: the branch itself, or the target of its reference
with a new cache. -/
inductive StandsFor (t : Setting) (root : Json) (scope : Url) : Json → Json → Prop
  | itself {branch : Json} : (branch.get? refKeyword).bind Json.string? = none →
      StandsFor t root scope branch branch
  | reference {branch : Json} {text : String} {target : Target} :
      (branch.get? refKeyword).bind Json.string? = some text →
      ((t.resolver.resolve text (.ofBase scope)).run (t.resolver.seed root)).1 = .ok target →
      StandsFor t root scope branch target.schema

/-- The violations of the ban at a node, for an object. Without branches they list the keys that the
node does not declare, and with branches, for each combinator, the keys that no branch declares. -/
inductive Complains (t : Setting) (root : Json) (scope : Url) (members object : Json.Members) :
    List (List Json) → Violation → Prop
  | alone {names : List String} {v : Violation} :
      Ban.Names object (Ban.Knows (.object members)) names →
      v.message = Ban.complaintText names
        (Ban.nameSet (Ban.declaredKeys "patternProperties" (.object members))) (.object members) →
      Complains t root scope members object [] v
  | combined {combined : List (List Json)} {branches targets : List Json} {names : List String}
      {v : Violation} :
      branches ∈ combined → List.Forall₂ (t.StandsFor root scope) branches targets →
      Ban.Names object (Ban.KnownAmong targets) names →
      v.message = Ban.complaintText names (Ban.declaredSet "patternProperties" targets)
        (.array branches) →
      Complains t root scope members object combined v

theorem answers_standsFor (hw : w.resolver = t.resolver) (hs : s.scopes.Regular) (branch : Json) :
    Answers (·.Sound t.resolver root) s (t.StandsFor root s.scopes.current branch)
      (Ban.branchTarget w branch) := by
  unfold Ban.branchTarget
  split
  next reference href =>
    exact .map (answers_resolve hw hs reference) fun target htarget => .reference href htarget
  next hnone => exact .pure (.itself hnone)

theorem answers_applyBan_complains (ht : t.registry = .ofDraft draft)
    (hobject : subject.value = .object object) (scope : Url) (combined : List (List Json)) :
    Answers (·.Sound t.resolver root) s
      (fun vs => ∀ v ∈ vs, v.BansAt [.key Ban.keyword] ∧
        t.Complains root scope members object combined v)
      (t.applyBan w (!combined.isEmpty) effective subject members) := by
  unfold applyBan
  cases combined with
  | cons branches rest => exact .pure (List.forall_mem_nil _)
  | nil =>
      refine answers_applyKeyword_of (lookup?_ban ht) ?_
        (Ban.answers_onObject hobject (.bool effective))
      rintro _ ⟨names, hnames, rfl⟩
      exact ⟨⟨rfl, rfl⟩, .alone hnames rfl⟩

theorem answers_unions_complain (root : Json) (members : Json.Members) (effective : Bool)
    (hs : s.scopes.Regular) (hw : w.resolver = t.resolver) (hobject : subject.value = .object object) :
    Answers (·.Sound t.resolver root) s
      (fun vs => ∀ v ∈ vs, v.BansAt [.key Ban.keyword] ∧
        t.Complains root s.scopes.current members object (t.unions effective members) v)
      (Walk.collect (Ban.onBranches w effective subject) (t.unions effective members)) := by
  refine .lists fun branches hbranches => ?_
  refine .mono (Ban.answers_onBranches_known hobject
    (fun branch _ => answers_standsFor hw hs branch) effective) fun vs hvs v hv => ?_
  obtain ⟨targets, names, hstands, hnames, hmessage, hkeyword, hplace⟩ := hvs v hv
  exact ⟨⟨hkeyword, hplace⟩, .combined hbranches hstands hnames hmessage⟩

/-- At a node without a reference the violations of the ban come first. The other keywords report
none of these at the node. -/
theorem answers_applyKeywords_complain (ht : t.registry = .ofDraft draft) (hs : s.scopes.Regular)
    (hobject : subject.value = .object object)
    (hnone : Json.Members.find? refKeyword members = none) (scope : Url)
    (combined : List (List Json)) (depth : Nat) :
    Answers (·.Sound t.resolver root) s
      (fun vs => ∃ complaints others, vs = complaints ++ others ∧
        (∀ v ∈ complaints, v.BansAt [.key Ban.keyword] ∧
          t.Complains root scope members object combined v) ∧
        ∀ v ∈ others, ¬ v.BansAt [.key Ban.keyword])
      (t.applyKeywords ⟨t.resolver, t.findsCycles, t.visit depth⟩ (!combined.isEmpty) effective subject
        members) := by
  unfold applyKeywords
  rw [hnone]
  refine .bind (answers_applyBan_complains ht hobject scope combined) fun complaints hcomplaints =>
    .map (p := fun others => ∀ v ∈ others, ¬ v.BansAt [.key Ban.keyword])
      (.lists fun entry hentry => ?_)
      fun others hothers => ⟨complaints, others, rfl, hcomplaints, hothers⟩
  obtain ⟨name, declared⟩ := entry
  dsimp only
  split
  next => exact .pure (List.forall_mem_nil _)
  next hban => exact answers_applyKeyword_unbanned ht hs hnone hentry hban depth

theorem answers_applyKeywords_reference (ht : t.registry = .ofDraft draft) (hs : s.scopes.Regular)
    {reference : Json} (href : Json.Members.find? refKeyword members = some reference)
    (checked : Bool) (depth : Nat) :
    let w : Walker := ⟨t.resolver, t.findsCycles, t.visit depth⟩
    Answers (·.Sound t.resolver root) s
      (fun vs => ∃ start,
        (t.applyKeyword w refKeyword reference subject members start).1 = .ok vs)
      (t.applyKeywords w checked effective subject members) := by
  intro w
  unfold applyKeywords
  rw [href]
  have hlawful := lawful_ofDraft ht
  exact answers_of_alike
    ((client_applyKeyword hlawful refKeyword reference subject members).alike
      (steady_visit hlawful root depth) hs)
    fun start vs hrun => ⟨start, hrun⟩

/-- The violations of a node begin with those of the ban at the node itself, followed by those of
the target of its reference, or else of its other keywords. -/
theorem answers_applySchema_complain (root : Json) (override : Option Bool)
    (ht : t.registry = .ofDraft draft) (hs : s.scopes.Regular)
    (hown : declaredScope members s.scopes = .ok own) (hobject : subject.value = .object object)
    (depth : Nat) :
    let w : Walker := ⟨t.resolver, t.findsCycles, t.visit depth⟩
    Answers (·.Sound t.resolver root) s
      (fun vs => ∃ complaints others, vs = complaints ++ others ∧
        (∀ v ∈ complaints, v.BansAt [.key Ban.keyword] ∧
          t.Complains root (own.getD s.scopes.current) members object
            (t.unions (effectiveBan members override s.frame.ban) members) v) ∧
        match Json.Members.find? refKeyword members with
        | none => ∀ v ∈ others, ¬ v.BansAt [.key Ban.keyword]
        | some reference => ∃ start,
            (t.applyKeyword w refKeyword reference subject members start).1 = .ok others)
      (t.applySchema w subject (.object members) override) := by
  intro w
  have hinner (relieved : Bool) : (s.within members override own relieved).scopes.Regular :=
    regular_within hs hown relieved
  have hunions := answers_unions_complain (w := w) root members
    (effectiveBan members override s.frame.ban) (hinner false) rfl hobject
  rw [WalkState.current_within] at hunions
  cases href : Json.Members.find? refKeyword members with
  | none =>
      refine .mono (answers_applySchema hown rfl hunions
        (answers_applyKeywords_complain ht (hinner _) hobject href (own.getD s.scopes.current) _
          depth)) ?_
      rintro vs ⟨unknown, _, hunknown, ⟨complaints, others, rfl, hcomplaints, hothers⟩, rfl⟩
      refine ⟨unknown ++ complaints, others, (List.append_assoc ..).symm, fun v hv => ?_, hothers⟩
      exact (List.mem_append.mp hv).elim (hunknown v) (hcomplaints v)
  | some reference =>
      refine .mono (answers_applySchema hown rfl hunions
        (answers_applyKeywords_reference ht (hinner _) href _ depth)) ?_
      rintro vs ⟨unknown, others, hunknown, hothers, rfl⟩
      exact ⟨unknown, others, rfl, hunknown, hothers⟩

end Setting

/-- Whenever a validation applies a node to an object, the violations begin with those of the ban at
the node itself. If the node combines no branches, these list the keys that the node declares
neither as a property nor by a pattern; otherwise they list, for each combinator, all keys that its
branches do not declare, whatever the node itself declares. They are followed by the violations of
the target of a reference or, without one, by those of other keywords, none of which is a violation
of the ban at the node. -/
theorem Options.names_unknown (o : Options) (hvocabulary : o.registry = none) (schema : Json)
    (base : Url) :
    let v := o.assemble schema base
    ∀ (s : WalkState) (members object : Json.Members) (override : Option Bool) (own : Option Url),
      s.scopes.Regular → s.memory.Sound v.setting.resolver v.schema →
      Setting.declaredScope members s.scopes = .ok own →
      ∀ (depth : Nat) (subject : Subject) (violations : List Violation),
        let w : Walker := ⟨v.setting.resolver, v.setting.findsCycles, v.setting.visit depth⟩
        subject.value = .object object →
        (v.setting.visit (depth + 1) subject (.object members) override s).1 = .ok violations →
        ∃ complaints others, violations = complaints ++ others ∧
          (∀ c ∈ complaints, c.BansAt [.key Ban.keyword] ∧
            v.setting.Complains v.schema (own.getD s.scopes.current) members object
              (v.setting.unions (Setting.effectiveBan members override s.frame.ban) members) c) ∧
          match Json.Members.find? Setting.refKeyword members with
          | none => ∀ c ∈ others, ¬ c.BansAt [.key Ban.keyword]
          | some reference => ∃ start,
              (v.setting.applyKeyword w Setting.refKeyword reference subject members start).1 =
                .ok others := by
  intro v s members object override own hs hm hown depth subject violations w hobject hrun
  have ht : v.setting.registry = .ofDraft o.draft := registry_assemble hvocabulary schema base
  have hanswers := Setting.answers_applySchema_complain v.schema override ht hs hown hobject depth
  exact (hanswers s.memory hm violations _ (Prod.ext hrun rfl)).1

/-- Three keys, of which one is a declared property and one matches a declared pattern. -/
theorem Options.names_unknown_alone :
    let o : Options := { standard .offline with depth := 9 }
    let members : Json.Members :=
      [("patternProperties", .object [("^x-", .object [])]), ("properties", .object [("a", .object [])])]
    let object : Json.Members := [("a", .null), ("b", .null), ("x-c", .null)]
    let v := o.assemble (.object members) Validator.defaultBase
    ∃ violations, (v.violations (.object object) .standard).outcome v.memory = .ok violations ∧
      violations.map (·.message) =
        ["banUnknownProperties: 'b' does not match any of the regexes: '^x-'"] ∧
      ∃ complaints others, violations = complaints ++ others ∧
        (∀ c ∈ complaints, c.BansAt [.key Ban.keyword] ∧
          v.setting.Complains v.schema Validator.defaultBase members object [] c) ∧
        ∀ c ∈ others, ¬ c.BansAt [.key Ban.keyword] := by
  intro o members object v
  have hbase : v.setting.resolver.base.Regular := Validator.regular_defaultBase
  have hlawful : v.setting.registry.Lawful := (Registry.preset_ofDraft .draft4).lawful
  have hmessages : ((v.violations (.object object) .standard).outcome v.memory).map
      (fun violations => violations.map (·.message)) =
        .ok ["banUnknownProperties: 'b' does not match any of the regexes: '^x-'"] := by
    decide +kernel
  have hnames := o.names_unknown rfl (.object members) Validator.defaultBase
    (v.start .standard v.memory) members object none none (.ofBase hbase)
    (Validator.Recalls.first.sound hlawful hbase) rfl 8 (.root (.object object))
  cases hrun : (v.violations (.object object) .standard).outcome v.memory with
  | error e =>
      rw [hrun] at hmessages
      cases hmessages
  | ok violations =>
      rw [hrun] at hmessages
      exact ⟨violations, rfl, Except.ok.inj hmessages, hnames violations rfl hrun⟩

/-- A property that a node declares beside its combinators is reported as unknown. -/
theorem Options.names_declared_beside_branches :
    let o : Options := { standard .offline with depth := 9 }
    let branches : List Json := [.object [("properties", .object [("b", .object [])])]]
    let members : Json.Members :=
      [("allOf", .array branches), ("properties", .object [("a", .object [])])]
    let v := o.assemble (.object members) Validator.defaultBase
    ∃ violation, (v.violations (.object [("a", .null), ("b", .null)]) .standard).outcome v.memory =
        .ok [violation] ∧
      violation.BansAt [.key Ban.keyword] ∧
      violation.message =
        "banUnknownProperties (Additional properties are not allowed ('a' was unexpected))\n" ++
          "schema: [\x7b\"properties\":\x7b\"b\":\x7b\x7d\x7d\x7d]" ∧
      Ban.Knows (.object members) "a" :=
  ⟨_, rfl, ⟨rfl, rfl⟩, by decide +kernel, .inl (List.mem_singleton_self _)⟩

end SchemaCheck
