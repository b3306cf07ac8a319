import SchemaCheck.Proofs.Keyword.Manner
import SchemaCheck.Proofs.Visit.Link

/-!
The flag of the ban as a function of the path to a schema. A trail lists the nodes that a walk has
passed and the keywords by which it left them, and determines the flag in force at the schema it
leads to. A walk that records its trail and fails if another flag is in force has the same outcome
as one without a trail.
-/

namespace SchemaCheck

open Walk

/-- A node that a walk has passed, and the keyword by which it left the node. -/
structure Hop where
  members : Json.Members
  keyword : String

/-- The path from the root to a schema, with the last hop first. -/
abbrev Trail :=
  List Hop

namespace Trail

/-- The node has branches whose union is checked if the ban is in force. -/
def combines (members : Json.Members) : Bool :=
  !(Setting.combinators.filterMap (Setting.branchesOf members)).isEmpty

/-- The flag of the nearest node on the trail that has one of its own, or that of the call. -/
def inherited (config : Bool) (trail : Trail) : Bool :=
  (trail.findSome? fun hop => Setting.ownBan hop.members).getD config

/-- The trail ends at a branch whose union has been checked, or continues from such a branch by
references at nodes without a flag of their own. -/
def relieved (config : Bool) : Trail → Bool
  | [] => false
  | hop :: rest =>
    if hop.keyword = Setting.refKeyword then
      (Setting.ownBan hop.members).isNone && relieved config rest
    else
      Setting.combinators.contains hop.keyword && combines hop.members &&
        (Setting.ownBan hop.members).getD (!relieved config rest && inherited config rest)

/-- The flag in force at the node that a trail leads to. -/
def flag (config : Bool) (trail : Trail) (members : Json.Members) : Bool :=
  (Setting.ownBan members).getD (!trail.relieved config && trail.inherited config)

variable {config : Bool} {trail : Trail} {members : Json.Members} {name : String}

theorem inherited_cons (config : Bool) (hop : Hop) (trail : Trail) :
    inherited config (hop :: trail) =
      (Setting.ownBan hop.members).getD (trail.inherited config) := by
  unfold inherited
  rw [List.findSome?_cons]
  cases Setting.ownBan hop.members <;> rfl

@[simp] theorem relieved_nil (config : Bool) : relieved config [] = false :=
  rfl

theorem relieved_ref (config : Bool) (members : Json.Members) (trail : Trail) :
    relieved config (⟨members, Setting.refKeyword⟩ :: trail) =
      ((Setting.ownBan members).isNone && trail.relieved config) := by
  rw [relieved, if_pos rfl]

theorem relieved_combinator (h : name ∈ Setting.combinators) :
    relieved config (⟨members, name⟩ :: trail) =
      (combines members && trail.flag config members) := by
  have hname : name ≠ Setting.refKeyword := by
    rintro rfl
    exact absurd h (by decide)
  rw [relieved, if_neg hname, flag]
  simp [h]

theorem relieved_other (h : name ∉ Keyword.particular) :
    relieved config (⟨members, name⟩ :: trail) = false := by
  have hname : name ≠ Setting.refKeyword := fun heq => h (heq ▸ List.mem_cons_self)
  have hcombinators : name ∉ Setting.combinators := fun hmem => h (List.mem_cons_of_mem _ hmem)
  rw [relieved, if_neg hname]
  simp [hcombinators]

/-- A trail is relieved iff it ends in zero or more hops by references, at nodes without a flag,
after a hop by a combinator at a node where the ban is in force. -/
theorem relieved_iff :
    trail.relieved config = true ↔
      ∃ hops branch outer, trail = hops ++ branch :: outer ∧
        (∀ hop ∈ hops, hop.keyword = Setting.refKeyword ∧ Setting.ownBan hop.members = none) ∧
        branch.keyword ∈ Setting.combinators ∧ combines branch.members = true ∧
        flag config outer branch.members = true := by
  induction trail with
  | nil => simp
  | cons hop rest ih =>
      obtain ⟨members, name⟩ := hop
      by_cases href : name = Setting.refKeyword
      · subst href
        rw [relieved_ref, Bool.and_eq_true, Option.isNone_iff_eq_none, ih]
        constructor
        · rintro ⟨hown, hops, branch, outer, rfl, hhops, hbranch⟩
          exact ⟨_ :: hops, branch, outer, rfl, List.forall_mem_cons.mpr ⟨⟨rfl, hown⟩, hhops⟩,
            hbranch⟩
        · rintro ⟨hops, branch, outer, heq, hhops, hcombinator, hbranch⟩
          cases hops with
          | nil =>
              cases heq
              exact absurd hcombinator
                (show Setting.refKeyword ∉ Setting.combinators by decide)
          | cons first hops =>
              cases heq
              obtain ⟨⟨-, hown⟩, hhops⟩ := List.forall_mem_cons.mp hhops
              exact ⟨hown, hops, branch, outer, rfl, hhops, hcombinator, hbranch⟩
      · constructor
        · intro h
          have hcombinator : name ∈ Setting.combinators := by
            by_contra hother
            rw [relieved_other fun hmem => (List.mem_cons.mp hmem).elim href hother] at h
            cases h
          rw [relieved_combinator hcombinator, Bool.and_eq_true] at h
          exact ⟨[], _, rest, rfl, List.forall_mem_nil _, hcombinator, h⟩
        · rintro ⟨hops, branch, outer, heq, hhops, hcombinator, hbranch⟩
          cases hops with
          | nil =>
              cases heq
              rw [relieved_combinator hcombinator, Bool.and_eq_true]
              exact hbranch
          | cons first hops =>
              cases heq
              exact absurd (hhops _ List.mem_cons_self).1 href

end Trail

/-- The registry in which each keyword has a walker of its own. -/
def Registry.supply (w : String → Walker) (r : Registry) : Registry :=
  ⟨r.entries.map fun entry => (entry.1, fun _ => entry.2 (w entry.1))⟩

theorem Registry.lookup?_supply (w : String → Walker) (r : Registry) (name : String) :
    (r.supply w).lookup? name = (r.lookup? name).map fun k _ => k (w name) := by
  obtain ⟨entries⟩ := r
  unfold Registry.lookup? Registry.supply
  induction entries with
  | nil => rfl
  | cons first rest ih =>
      rw [List.map_cons, List.find?_cons, List.find?_cons]
      by_cases hname : first.1 = name
      · simp [hname]
      · simpa [hname] using ih

namespace Setting

/-- The setting in which each keyword has a walker of its own. -/
def supply (w : String → Walker) (t : Setting) : Setting :=
  { t with registry := t.registry.supply w }

/-- The flag in force at a node is that of its trail, and the node is given an override only if the
trail is relieved. -/
def Governs (config : Bool) (trail : Trail) (members : Json.Members) (override : Option Bool)
    (s : WalkState) : Prop :=
  effectiveBan members override s.frame.ban = trail.flag config members ∧
    (trail.relieved config = false → override = none)

instance (config : Bool) (trail : Trail) (members : Json.Members) (override : Option Bool)
    (s : WalkState) : Decidable (Governs config trail members override s) :=
  inferInstanceAs (Decidable (_ ∧ _))

/-- The walk that records its trail, and fails with `e` before it applies a node whose flag in force
is not that of the trail. -/
def visitAlong (t : Setting) (config : Bool) (e : Failure) :
    Nat → Trail → Subject → Json → Option Bool → Walk (List Violation)
  | 0, _, _, _, _ => Walk.fail .tooDeep
  | depth + 1, trail, subject, schema, override => fun s =>
    match schema with
    | .object members =>
      if Governs config trail members override s then
        let w (name : String) : Walker :=
          { resolver := t.resolver
            findsCycles := t.findsCycles
            visit := t.visitAlong config e depth (⟨members, name⟩ :: trail) }
        (t.supply w).applySchema (w Ban.keyword) subject schema override s
      else (.error e, s)
    | _ => (.ok [], s)

variable {t : Setting} {draft : Draft} {config : Bool} {e : Failure} {trail : Trail}
variable {members : Json.Members} {override : Option Bool} {s : WalkState} {subject : Subject}

theorem visitAlong_of_governs (h : Governs config trail members override s) (e : Failure)
    (depth : Nat) (subject : Subject) :
    t.visitAlong config e (depth + 1) trail subject (.object members) override s =
      (t.supply fun name => ⟨t.resolver, t.findsCycles,
        t.visitAlong config e depth (⟨members, name⟩ :: trail)⟩).applySchema
        ⟨t.resolver, t.findsCycles,
          t.visitAlong config e depth (⟨members, Ban.keyword⟩ :: trail)⟩
        subject (.object members) override s :=
  if_pos h

/-- The state and the override agree with the trail. -/
structure Along (config : Bool) (trail : Trail) (override : Option Bool) (s : WalkState) :
    Prop where
  inherited : s.frame.ban = trail.inherited config
  override : override = if trail.relieved config then some false else none

theorem Along.governs (h : Along config trail override s) :
    Governs config trail members override s := by
  obtain ⟨hinherited, rfl⟩ := h
  refine ⟨?_, fun hrelieved => by rw [hrelieved]; rfl⟩
  rw [effectiveBan, Trail.flag, hinherited]
  cases ownBan members with
  | some own => rfl
  | none => cases trail.relieved config <;> rfl

variable {L : Link} {a b : WalkState} {w w₀ : Walker} {w' : String → Walker}

/-- A keyword has the same result with another walker if it has with that walker. -/
theorem linked_applyKeyword_supply (name : String) (declared : Json)
    (h : ∀ k, t.registry.lookup? name = some k →
      Linked L a b (k w declared subject members) (k (w' name) declared subject members)) :
    Linked L a b (t.applyKeyword w name declared subject members)
      ((t.supply w').applyKeyword w₀ name declared subject members) := by
  unfold applyKeyword
  rw [supply, Registry.lookup?_supply]
  cases hlookup : t.registry.lookup? name with
  | none => exact .pure _
  | some k => exact .bind (h k hlookup) fun _ _ _ _ _ _ => .pure _

theorem linked_applyKeywords_supply (checked effective : Bool)
    (h : ∀ name k declared, t.registry.lookup? name = some k →
      Linked L a b (k w declared subject members) (k (w' name) declared subject members)) :
    Linked L a b (t.applyKeywords w checked effective subject members)
      ((t.supply w').applyKeywords w₀ checked effective subject members) := by
  have hkeyword (name : String) (declared : Json) :
      Linked L a b (t.applyKeyword w name declared subject members)
        ((t.supply w').applyKeyword w₀ name declared subject members) :=
    linked_applyKeyword_supply name declared fun k hlookup => h name k declared hlookup
  unfold applyKeywords
  cases Json.Members.find? refKeyword members with
  | some declared => exact hkeyword _ _
  | none =>
      refine .bind ?_ fun plain _ _ _ _ _ => .bind (.collect fun entry _ => ?_)
        fun others _ _ _ _ _ => .pure _
      · unfold applyBan
        cases checked with
        | true => exact .pure _
        | false => exact hkeyword _ _
      · obtain ⟨name, declared⟩ := entry
        by_cases hban : name = Ban.keyword
        · simp only [if_pos hban]
          exact .pure _
        · simp only [if_neg hban]
          exact hkeyword _ _

variable {own : Option Url}

theorem Along.within_ban (h : Along config trail override s) (relieved : Bool) (name : String) :
    (s.within members override own relieved).frame.ban =
      Trail.inherited config (⟨members, name⟩ :: trail) := by
  have hban : (s.within members override own relieved).frame.ban =
      (ownBan members).getD s.frame.ban := by
    cases own <;> rfl
  rw [hban, h.inherited, Trail.inherited_cons]

/-- A schema that is applied by a keyword inherits the flag of the node. -/
theorem Along.descend (h : Along config trail override s) {name : String}
    (hname : name ∉ Keyword.particular) (relieved : Bool) :
    Along config (⟨members, name⟩ :: trail) none (s.within members override own relieved) where
  inherited := h.within_ban relieved name
  override := by
    rw [Trail.relieved_other hname]
    rfl

/-- A branch is relieved if the union of the branches has been checked. -/
theorem Along.branch (h : Along config trail override s) (hchecks : t.checksUnions = true)
    {name : String} (hname : name ∈ combinators) {relieved : Bool}
    (hrelieved : relieved =
      !(t.unions (effectiveBan members override s.frame.ban) members).isEmpty) :
    Along config (⟨members, name⟩ :: trail) (if relieved then some false else none)
      (s.within members override own relieved) where
  inherited := h.within_ban relieved name
  override := by
    have hunions : relieved = (Trail.combines members && trail.flag config members) := by
      rw [hrelieved, h.governs.1, unions, hchecks, Trail.combines]
      cases trail.flag config members <;> simp
    rw [Trail.relieved_combinator hname, hunions]

/-- A reference passes on the override of its node, unless the node has a flag of its own. -/
theorem Along.refer (h : Along config trail override s) (relieved : Bool) (target : Target)
    (subject : Subject) :
    Along config (⟨members, refKeyword⟩ :: trail)
      (s.within members override own relieved).frame.refOverride
      ((s.within members override own relieved).jump target subject) where
  inherited := h.within_ban relieved refKeyword
  override := by
    have hoverride : (s.within members override own relieved).frame.refOverride =
        if (ownBan members).isSome then none else override := by
      cases own <;> rfl
    rw [hoverride, Trail.relieved_ref, h.override]
    cases ownBan members <;> simp

/-- The check of unions applies no schemas, so that it depends on the resolver of the walker
only. -/
theorem linked_unions {w w' : Walker} (effective : Bool) (hw : w'.resolver = w.resolver) :
    Linked (.same (fun _ => True) fun _ => True) s s
      (Walk.collect (Ban.onBranches w effective subject) (t.unions effective members))
      (Walk.collect (Ban.onBranches w' effective subject) (t.unions effective members)) := by
  have hprogram : Program ⟨subject, fun _ => False, fun _ => False, fun _ => True, False⟩ fun w =>
      Walk.collect (Ban.onBranches w effective subject) (t.unions effective members) :=
    program_unions (fun _ _ => trivial) effective effective subject
  refine hprogram.linked (regular_same (fun _ _ _ => trivial) fun _ _ => trivial) {
    resolve := fun reference _ => ?_
    descend := fun _ _ _ hsub => hsub.elim
    branch := fun _ hsub => hsub.elim
    refer := fun _ href => href.elim }
  exact linked_resolve_same (fun _ _ => trivial) (fun _ _ => by rw [hw]) fun _ => trivial

/-- Each keyword extends the trail by a hop with its name. -/
theorem linked_keyword_along {k : Keyword} {name : String} {w w' : Walker} {both : Failure → Prop}
    (hk : (Registry.ofDraft draft).lookup? name = some k) (declared : Json)
    (hplain : ∀ e : Failure, e.Plain → both e)
    (hdescend : name ∉ Keyword.particular → ∀ inner sub,
      Linked (.same (fun _ => True) both) s s (w.visit inner sub none) (w'.visit inner sub none))
    (hbranch : name ∈ combinators → ∀ inner sub,
      Linked (.same (fun _ => True) both) s s
        (w.visit inner sub (if s.frame.suppressBranchBan then some false else none))
        (w'.visit inner sub (if s.frame.suppressBranchBan then some false else none)))
    (hrefer : name = refKeyword → ∀ reference,
      Linked (.same (fun _ => True) both) s s (w.refer reference subject)
        (w'.refer reference subject)) :
    Linked (.same (fun _ => True) both) s s (k w declared subject members)
      (k w' declared subject members) := by
  have hregular : Regular (.same (fun _ => True) both) :=
    regular_same (fun _ _ _ => trivial) hplain
  have hprogram := Keyword.reaches_of_lookup?_ofDraft hk declared subject members
  by_cases href : name = refKeyword
  · subst href
    exact hprogram.linked hregular {
      resolve := fun _ hlooks => hlooks.elim
      descend := fun _ _ _ hsub => nomatch hsub
      branch := fun _ hsub => nomatch hsub
      refer := fun reference _ => hrefer rfl reference }
  · by_cases hcombinator : name ∈ combinators
    · have hbranches := Keyword.branches_of_lookup?_ofDraft hk hcombinator
      rw [← hbranches w, ← hbranches w']
      exact hprogram.linked hregular {
        resolve := fun _ hlooks => hlooks.elim
        descend := fun inner sub _ _ => hbranch hcombinator inner sub
        branch := fun sub _ => hbranch hcombinator subject sub
        refer := fun reference href' => absurd href'.1 href }
    · have hparticular : name ∉ Keyword.particular := fun hmem =>
        (List.mem_cons.mp hmem).elim href hcombinator
      have hdescends := Keyword.descends_of_lookup?_ofDraft hk hparticular
      rw [← hdescends w, ← hdescends w']
      exact hprogram.linked hregular {
        resolve := fun _ hlooks => hlooks.elim
        descend := fun inner sub _ _ => hdescend hparticular inner sub
        branch := fun sub _ => hdescend hparticular subject sub
        refer := fun reference href' => absurd href'.1 href }

/-- The walk that records its trail has the same outcome as the walk without it, for every `e`. -/
theorem linked_visitAlong (ht : t.registry = .ofDraft draft) (hcycles : t.findsCycles = true)
    (hchecks : t.checksUnions = true) (hs : Along config trail override s) (e : Failure)
    (depth : Nat) (subject : Subject) (schema : Json) :
    Linked (.same (fun _ => True) fun _ => True) s s (t.visit depth subject schema override)
      (t.visitAlong config e depth trail subject schema override) := by
  induction depth generalizing s trail override subject schema with
  | zero => exact .fail trivial
  | succ depth ih =>
      by_cases hobject : ∃ members, schema = .object members
      · obtain ⟨members, rfl⟩ := hobject
        intro m n hmem
        have hgoverns : Governs config trail members override (s.remember n) := hs.governs
        rw [visitAlong_of_governs hgoverns]
        refine (linked_applySchema_across rfl rfl (fun _ _ => trivial) fun own hown => ?_) m n hmem
        refine {
          same := rfl
          unions := linked_unions _ rfl
          keywords := fun relieved hrelieved => linked_applyKeywords_supply _ _
            fun name k declared hlookup => linked_keyword_along (ht ▸ hlookup) declared
              (fun _ _ => trivial) (fun hname => ?_) (fun hname => ?_) ?_ }
        · exact ih (hs.descend hname relieved)
        · have hsuppress : ((s.within members override own false).relieve
              relieved).frame.suppressBranchBan = relieved := rfl
          rw [hsuppress]
          exact ih (hs.branch hchecks hname hrelieved)
        · rintro rfl reference
          refine .bind (linked_resolve_same (fun _ _ => trivial) (fun _ _ => rfl)
            fun _ => trivial) fun target _ _ _ _ _ => ?_
          exact linked_follow_of_findsCycles hcycles hcycles (fun _ => trivial) fun _ =>
            ih (hs.refer relieved target subject) subject target.schema
      · cases schema with
        | object members => exact absurd ⟨members, rfl⟩ hobject
        | _ => exact .pure []

end Setting

end SchemaCheck
