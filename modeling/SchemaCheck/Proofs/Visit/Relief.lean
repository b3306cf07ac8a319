import SchemaCheck.Proofs.Keyword.Manner
import SchemaCheck.Proofs.Visit.Course
import SchemaCheck.Proofs.Visit.Union

/-!
Branches of a checked union are relieved of the ban: there are no violations of the ban for a branch
itself, or for the schemas that it leads to by references. The schemas that they apply are under the
ban as before.
-/

namespace SchemaCheck

open Walk Relation

/-- The violation belongs to the ban, at the given schema path. -/
def Violation.BansAt (place : Location) (v : Violation) : Prop :=
  v.keyword = some Ban.keyword ∧ v.schemaPath = place

/-- A violation of a node that is not one of the ban for a branch itself: neither for a branch of
`allOf`, nor in the context of `anyOf`. -/
def Violation.SparesBranches (v : Violation) : Prop :=
  (∀ i, ¬ v.BansAt [.key "allOf", .index i, .key Ban.keyword]) ∧
    (v.schemaPath = [.key "anyOf"] →
      ∀ c ∈ v.context, ∀ i, ¬ c.BansAt [.index i, .key Ban.keyword])

variable {v : Violation} {name : String}

/-- Filling in another keyword does not turn a violation into one of the ban. -/
theorem Violation.bansAt_fill (hname : name ≠ Ban.keyword) {declared culprit schema : Json}
    {place : Location} (h : (v.fill name declared culprit schema).BansAt place) :
    v.BansAt place := by
  obtain ⟨hkeyword, hplace⟩ := h
  refine ⟨?_, hplace⟩
  cases hown : v.keyword with
  | none => exact absurd (by simpa [fill, hown] using hkeyword) hname
  | some own => simpa [fill, hown] using hkeyword

theorem Violation.bansAt_underSchema {step : Step} {place : Location}
    (h : (v.underSchema step).BansAt place) : ∃ rest, place = step :: rest ∧ v.BansAt rest :=
  ⟨v.schemaPath, h.2.symm, h.1, rfl⟩

theorem Violation.bansAt_nested {i : Nat} {place : Location}
    (h : (v.nested none (some (.index i))).BansAt place) :
    ∃ rest, place = .index i :: rest ∧ v.BansAt rest :=
  ⟨v.schemaPath, h.2.symm, h.1, rfl⟩

/-- A violation below another name is not one of a branch. -/
theorem Violation.sparesBranches_of_head {step : Step} {rest : Location}
    (h : v.schemaPath = step :: rest) (hallOf : step ≠ .key "allOf") (hanyOf : step ≠ .key "anyOf") :
    v.SparesBranches := by
  refine ⟨fun i hbans => ?_, fun hplace => ?_⟩
  · rw [hbans.2] at h
    exact absurd (List.cons.inj h).1.symm hallOf
  · rw [hplace] at h
    exact absurd (List.cons.inj h).1.symm hanyOf

namespace Setting

variable {t : Setting} {draft : Draft} {root schema : Json} {s : WalkState} {w : Walker}
variable {subject : Subject} {members : Json.Members} {override : Option Bool}

/-- No node on the chain of references from the given one switches the ban on. -/
def UnbannedBranch (t : Setting) (root : Json) : Node → Prop :=
  UnbannedBy (t.Refers root)

/-- A node without a reference ends the chain. -/
theorem UnbannedBranch.of_none {scope : Url}
    (hnone : Json.Members.find? refKeyword members = none) (hown : ownBan members ≠ some true) :
    t.UnbannedBranch root ⟨scope, .object members⟩ := by
  refine .of_steps hown ?_
  rintro _ ⟨-, hreference, -⟩
  rw [hnone] at hreference
  cases hreference

/-- The chain continues with the target of a reference. -/
theorem UnbannedBranch.of_target {scope : Url} {b : Node}
    (hrefers : t.Refers root ⟨scope, .object members⟩ b) (hown : ownBan members ≠ some true)
    (h : t.UnbannedBranch root b) : t.UnbannedBranch root ⟨scope, .object members⟩ :=
  .of_steps hown fun _ hrefers' => hrefers.unique hrefers' ▸ h

/-- A keyword other than the reference reports violations below its name. -/
theorem lists_applyKeyword_below (href : name ≠ refKeyword) (declared : Json) :
    Lists (fun v => ∃ rest, v.schemaPath = .key name :: rest)
      (t.applyKeyword w name declared subject members) := by
  unfold applyKeyword
  split
  · exact .nil
  · refine .map (q := fun _ => True) (fun _ _ _ _ _ => trivial) fun v _ => ?_
    rw [if_neg href]
    exact ⟨_, rfl⟩

theorem answers_applyKeyword_below (ht : t.registry = .ofDraft draft) (hs : s.scopes.Regular)
    (href : name ≠ refKeyword) (declared : Json) (depth : Nat) :
    Answers (·.Sound t.resolver root) s
      (fun vs => ∀ v ∈ vs, ∃ rest, v.schemaPath = .key name :: rest)
      (t.applyKeyword ⟨t.resolver, t.findsCycles, t.visit depth⟩ name declared subject members) := by
  have hlawful := lawful_ofDraft ht
  have hclient := client_applyKeyword hlawful name declared subject members
  exact answers_of_alike (hclient.alike (steady_visit hlawful root depth) hs)
    (lists_applyKeyword_below href declared)

/-- The keywords other than the ban report no violations at the schema path of the ban. -/
theorem answers_applyKeyword_unbanned (ht : t.registry = .ofDraft draft) (hs : s.scopes.Regular)
    (hnone : Json.Members.find? refKeyword members = none) {entry : String × Json}
    (hentry : entry ∈ members) (hban : entry.1 ≠ Ban.keyword) (depth : Nat) :
    Answers (·.Sound t.resolver root) s (fun vs => ∀ v ∈ vs, ¬ v.BansAt [.key Ban.keyword])
      (t.applyKeyword ⟨t.resolver, t.findsCycles, t.visit depth⟩ entry.1 entry.2 subject members) := by
  obtain ⟨name, declared⟩ := entry
  have href : name ≠ refKeyword := by
    rintro rfl
    exact Json.Members.find?_eq_none hnone hentry
  refine .mono (answers_applyKeyword_below ht hs href declared depth) fun vs hvs v hv hbans => ?_
  obtain ⟨rest, hplace⟩ := hvs v hv
  rw [hbans.2] at hplace
  exact hban (Step.key.inj (List.cons.inj hplace).1).symm

/-- The check of a union reports violations of the node itself. -/
theorem lists_onBranches_place (effective : Bool) (branches : List Json) :
    Lists (·.schemaPath = [.key Ban.keyword]) (Ban.onBranches w effective subject branches) := by
  unfold Ban.onBranches
  split
  · exact .nil
  · refine .after fun targets => .after fun union => ?_
    dsimp only
    split
    · exact .nil
    · exact .singleton rfl

/-- The check of unions reports no violations of a single branch. -/
theorem answers_unions_spare (ht : t.registry = .ofDraft draft) (hs : s.scopes.Regular)
    (effective : Bool) (depth : Nat) :
    Answers (·.Sound t.resolver root) s (fun vs => ∀ v ∈ vs, v.SparesBranches)
      (Walk.collect
        (Ban.onBranches ⟨t.resolver, t.findsCycles, t.visit depth⟩ effective subject)
        (t.unions effective members)) := by
  refine answers_of_alike
    ((client_unions _ _ subject members).alike (steady_visit (lawful_ofDraft ht) root depth) hs)
    ((Lists.collect fun branches _ => lists_onBranches_place effective branches).mono ?_)
  exact fun v hplace => Violation.sparesBranches_of_head hplace (by decide) (by decide)

/-- The violations of a reference are those of its target. -/
theorem answers_applyReference {p : Violation → Prop} {declared : Json}
    (ht : t.registry = .ofDraft draft) (hw : w.resolver = t.resolver) (hs : s.scopes.Regular)
    (hfill : ∀ v, p v → p (v.fill refKeyword declared subject.value (.object members)))
    (htarget : ∀ (reference : String) (target : Target), declared = .string reference →
      ((t.resolver.resolve reference (.ofBase s.scopes.current)).run
        (t.resolver.seed root)).1 = .ok target →
      (s.jump target subject).scopes.Regular →
      Answers (·.Sound t.resolver root) (s.jump target subject) (fun vs => ∀ v ∈ vs, p v)
        (w.visit subject target.schema s.frame.refOverride)) :
    Answers (·.Sound t.resolver root) s (fun vs => ∀ v ∈ vs, p v)
      (t.applyKeyword w refKeyword declared subject members) := by
  refine answers_applyKeyword_of (lookup?_reference ht) (p := p) (fun v hv => ?_) ?_
  · dsimp only
    rw [if_pos rfl]
    exact hfill v hv
  · unfold Keyword.reference
    split
    next reference =>
      refine .bind (answers_resolve hw hs reference) fun target hresolve => answers_follow ?_
      exact htarget reference target rfl hresolve
        (hs.push (Url.join_regular hs.current (Resolver.resolveUrl_of_resolve hresolve).1))
    next => exact .fail _

/-- If the ban is off at a node and no chain of references switches it on, there are no violations
of the ban for the node or for the targets on the chain. -/
theorem answers_visit_unbanned (ht : t.registry = .ofDraft draft) (hs : s.scopes.Regular)
    (hflag : override.getD s.frame.ban = false)
    (hfree : t.UnbannedBranch root ⟨s.scopes.current, schema⟩) (depth : Nat) (subject : Subject) :
    Answers (·.Sound t.resolver root) s (fun vs => ∀ v ∈ vs, ¬ v.BansAt [.key Ban.keyword])
      (t.visit depth subject schema override) := by
  induction depth generalizing s schema override with
  | zero => exact .fail _
  | succ depth ih =>
      by_cases hobject : ∃ members, schema = .object members
      · obtain ⟨members, rfl⟩ := hobject
        have hoff : ownBan members ≠ some true := hfree.ownBan_ne
        cases hown : declaredScope members s.scopes with
        | error e => exact answers_applySchema_error hown
        | ok own =>
            have hinner : (s.within members override own false).scopes.Regular :=
              regular_within hs hown false
            refine .mono (answers_applySchema (p := (· = []))
              (q := fun vs => ∀ v ∈ vs, ¬ v.BansAt [.key Ban.keyword]) hown
              (effectiveBan_eq_false hflag hoff) ?_ ?_) ?_
            · rw [unions_false]
              exact .pure rfl
            · rw [unions_false]
              cases hreference : Json.Members.find? refKeyword members with
              | none =>
                  exact answers_applyKeywords_of hreference (applyBan_off ht)
                    fun entry hentry hban =>
                      answers_applyKeyword_unbanned ht hinner hreference hentry hban depth
              | some declared =>
                  unfold applyKeywords
                  rw [hreference]
                  refine answers_applyReference ht rfl hinner
                    (fun v hv hbans => hv (Violation.bansAt_fill (by decide) hbans)) ?_
                  rintro reference target rfl hresolve hjump
                  rw [WalkState.current_within] at hresolve
                  exact ih hjump (refOverride_within own hflag hoff false)
                    (hfree.step (.intro hown hreference hresolve))
            · rintro vs ⟨unknown, others, rfl, hothers, rfl⟩
              exact hothers
      · cases schema with
        | object members => exact absurd ⟨members, rfl⟩ hobject
        | _ => exact .pure (List.forall_mem_nil _)

/-- The violations of the branches of `anyOf` are in the context of its violation. -/
theorem answers_firstValid {I : Memory → Prop} {p : Violation → Prop}
    {apply : Json × Nat → Walk (List Violation)} {branches : List (Json × Nat)}
    (h : ∀ branch ∈ branches, Answers I s (fun vs => ∀ v ∈ vs, p v) (apply branch)) :
    Answers I s (fun found => ∀ context, found = .error context → ∀ v ∈ context, p v)
      (Keyword.firstValid apply branches) := by
  induction branches with
  | nil =>
      refine .pure fun context hcontext => ?_
      cases hcontext
      exact List.forall_mem_nil _
  | cons branch rest ih =>
      obtain ⟨hbranch, hrest⟩ := List.forall_mem_cons.mp h
      refine .bind hbranch fun violations hviolations => ?_
      split
      · refine .pure ?_
        rintro _ ⟨⟩
      · refine .bind (ih hrest) fun found hfound => ?_
        split
        next =>
          refine .pure ?_
          rintro _ ⟨⟩
        next more =>
          refine .pure fun context hcontext v hv => ?_
          cases hcontext
          exact (List.mem_append.mp hv).elim (hviolations v) (hfound more rfl v)

theorem answers_anyOf_of {I : Memory → Prop} {declared : Json} {p : Violation → Prop}
    (h : ∀ branch ∈ declared.elements, Answers I s (fun vs => ∀ v ∈ vs, p v)
      (w.visit subject branch (if s.frame.suppressBranchBan then some false else none))) :
    Answers I s
      (fun vs => ∀ v ∈ vs, v.schemaPath = [] ∧
        ∀ c ∈ v.context, ∃ i inner, p inner ∧ c = inner.nested none (some (.index i)))
      (Keyword.anyOf w declared subject members) := by
  unfold Keyword.anyOf
  split
  next branches =>
    refine .bind (answers_firstValid (p := fun c => ∃ i inner, p inner ∧
      c = inner.nested none (some (.index i))) fun entry hentry => ?_) fun found hfound => ?_
    · refine .map (answers_applyBranch (h entry.1 (List.fst_mem_of_mem_zipIdx hentry)))
        fun vs hvs v hv => ?_
      obtain ⟨inner, hinner, rfl⟩ := List.mem_map.mp hv
      exact ⟨entry.2, inner, hvs inner hinner, rfl⟩
    · split
      next => exact .pure (List.forall_mem_nil _)
      next context =>
        refine .pure fun v hv => ?_
        obtain rfl := List.mem_singleton.mp hv
        exact ⟨rfl, hfound context rfl⟩
  next => exact .pure (List.forall_mem_nil _)

/-- A combinator whose branches have no violations of the ban themselves. -/
theorem answers_applyCombinator {I : Memory → Prop} {declared : Json}
    (ht : t.registry = .ofDraft draft) (hname : name ∈ combinators)
    (h : ∀ branch ∈ declared.elements,
      Answers I s (fun vs => ∀ v ∈ vs, ¬ v.BansAt [.key Ban.keyword])
        (w.visit subject branch (if s.frame.suppressBranchBan then some false else none))) :
    Answers I s (fun vs => ∀ v ∈ vs, v.SparesBranches)
      (t.applyKeyword w name declared subject members) := by
  cases hlookup : t.registry.lookup? name with
  | none =>
      unfold applyKeyword
      rw [hlookup]
      exact .pure (List.forall_mem_nil _)
  | some k =>
      rcases Keyword.combinator_of_lookup?_ofDraft (ht ▸ hlookup) hname with
        ⟨rfl, rfl⟩ | ⟨rfl, rfl⟩
      · refine answers_applyKeyword_of hlookup ?_ (answers_allOf_of h)
        rintro _ ⟨i, inner, hinner, rfl⟩
        refine ⟨fun j hbans => ?_, fun hplace => ?_⟩
        · obtain ⟨_, hrest, hbans⟩ := Violation.bansAt_underSchema hbans
          obtain ⟨_, hlast, hbans⟩ := Violation.bansAt_nested (Violation.bansAt_fill (by decide) hbans)
          cases hrest
          cases hlast
          exact hinner hbans
        · exact absurd (List.cons.inj hplace).1 (by decide)
      · refine answers_applyKeyword_of hlookup ?_ (answers_anyOf_of h)
        rintro v ⟨hplace, hcontext⟩
        refine ⟨fun j hbans => ?_, fun _ c hc j hbans => ?_⟩
        · exact absurd (List.cons.inj hbans.2).1 (by decide)
        · obtain ⟨i, inner, hinner, rfl⟩ := hcontext c hc
          obtain ⟨_, hlast, hbans⟩ := Violation.bansAt_nested hbans
          cases hlast
          exact hinner hbans

/-- A node that checks the unions of its branches reports no violations of the ban for a branch that
does not switch it on, itself or by a chain of references. -/
theorem answers_visit_relieved (ht : t.registry = .ofDraft draft) (hchecks : t.checksUnions = true)
    (hs : s.scopes.Regular) {own : Option Url} (hown : declaredScope members s.scopes = .ok own)
    (heffective : effectiveBan members override s.frame.ban = true)
    (hnone : Json.Members.find? refKeyword members = none)
    (hcombines : combinators.filterMap (branchesOf members) ≠ [])
    (hfree : ∀ name ∈ combinators, ∀ declared, (name, declared) ∈ members →
      ∀ branch ∈ declared.elements,
        t.UnbannedBranch root ⟨own.getD s.scopes.current, branch⟩)
    (depth : Nat) (subject : Subject) :
    Answers (·.Sound t.resolver root) s (fun vs => ∀ v ∈ vs, v.SparesBranches)
      (t.visit (depth + 1) subject (.object members) override) := by
  have hunions : t.unions true members = combinators.filterMap (branchesOf members) := by
    simp [unions, hchecks]
  have hrelieved : (!(t.unions true members).isEmpty) = true := by
    simpa [hunions] using hcombines
  have hinner (relieved : Bool) : (s.within members override own relieved).scopes.Regular :=
    regular_within hs hown relieved
  have hbranches (name : String) (hname : name ∈ combinators) (declared : Json)
      (hdeclared : (name, declared) ∈ members) (branch : Json) (hbranch : branch ∈ declared.elements) :
      Answers (·.Sound t.resolver root) (s.within members override own true)
        (fun vs => ∀ v ∈ vs, ¬ v.BansAt [.key Ban.keyword])
        (t.visit depth subject branch
          (if (s.within members override own true).frame.suppressBranchBan then some false
            else none)) := by
    have hsuppress : (s.within members override own true).frame.suppressBranchBan = true := by
      rw [frame_within]
    rw [hsuppress]
    refine answers_visit_unbanned ht (hinner true) rfl ?_ depth subject
    rw [WalkState.current_within]
    exact hfree name hname declared hdeclared branch hbranch
  refine .mono (answers_applySchema (p := fun vs => ∀ v ∈ vs, v.SparesBranches)
    (q := fun vs => ∀ v ∈ vs, v.SparesBranches) hown heffective ?_ ?_) ?_
  · exact answers_unions_spare ht (hinner false) true depth
  · rw [hrelieved]
    refine answers_applyKeywords_of hnone rfl fun entry hentry hban => ?_
    obtain ⟨name, declared⟩ := entry
    dsimp only
    by_cases hname : name ∈ combinators
    · exact answers_applyCombinator ht hname (hbranches name hname declared hentry)
    · have href : name ≠ refKeyword := by
        rintro rfl
        exact Json.Members.find?_eq_none hnone hentry
      refine .mono (answers_applyKeyword_below ht (hinner true) href declared depth)
        fun vs hvs v hv => ?_
      obtain ⟨rest, hplace⟩ := hvs v hv
      refine Violation.sparesBranches_of_head hplace ?_ ?_
      · exact fun heq => hname (Step.key.inj heq ▸ by decide)
      · exact fun heq => hname (Step.key.inj heq ▸ by decide)
  · rintro vs ⟨unknown, others, hunknown, hothers, rfl⟩ v hv
    exact (List.mem_append.mp hv).elim (hunknown v) (hothers v)

end Setting

end SchemaCheck
