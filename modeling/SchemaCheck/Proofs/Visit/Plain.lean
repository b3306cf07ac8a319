import SchemaCheck.Proofs.Violation.Keyword
import SchemaCheck.Proofs.Visit.Course

/-!
Walks without the ban. In a plain setting no unions are checked and the ban is no keyword, so that
there are no violations of the ban. If the ban is off and no schema on the course switches it on, a
walk has the same result as in the plain setting.
-/

namespace SchemaCheck

open Walk

/-- Neither the violation nor any one in its context belongs to the ban. -/
inductive Violation.Spared : Violation → Prop
  | intro {v : Violation} (keyword : v.keyword ≠ some Ban.keyword)
      (context : ∀ c ∈ v.context, Spared c) : Spared v

/-- The passage of such violations through keywords other than the ban. -/
def Passage.sparing : Passage where
  applied _ _ v := v.Spared
  lifted _ _ v := v.Spared
  raised _ _ v := v.Spared
  lift _ _ _ _ _ _ := fun ⟨hkeyword, hcontext⟩ => .intro hkeyword hcontext
  message _ _ _ := .intro nofun fun _ hc => nomatch hc
  context _ _ _ _ h := .intro nofun h
  inside _ _ _ _ _ _ _ _ _ := fun ⟨hkeyword, hcontext⟩ => .intro hkeyword hcontext

theorem Passage.third_sparing : Passage.sparing.Third where
  types _ _ _ _ h := .intro nofun h
  missing _ _ name schema _ v hv := by
    unfold Keyword.Draft3.missing at hv
    split at hv
    · rw [List.mem_singleton.mp hv]
      refine .intro (fun h => ?_) fun _ hc => nomatch hc
      exact absurd (Option.some.inj h) (by decide)
    · exact nomatch hv

theorem Violation.Spared.fill {v : Violation} (h : v.Spared) {name : String}
    (hname : name ≠ Ban.keyword) (declared culprit schema : Json) :
    (v.fill name declared culprit schema).Spared := by
  obtain ⟨hkeyword, hcontext⟩ := h
  refine .intro (fun hfilled => ?_) hcontext
  cases hown : v.keyword with
  | none => exact hname (by simpa [Violation.fill, hown] using hfilled)
  | some own => exact hkeyword (by simpa [Violation.fill, hown] using hfilled)

theorem Violation.Spared.underSchema {v : Violation} (h : v.Spared) (step : Step) :
    (v.underSchema step).Spared := by
  obtain ⟨hkeyword, hcontext⟩ := h
  exact .intro hkeyword hcontext

namespace Setting

/-- The setting without the ban: unions are not checked, and its keyword is unregistered. -/
def plain (t : Setting) : Setting :=
  { t with
    checksUnions := false
    registry := t.registry.unregister Ban.keyword }

variable {t : Setting} {draft : Draft} {w : Walker} {subject : Subject} {members : Json.Members}

@[simp] theorem unions_plain (effective : Bool) (members : Json.Members) :
    t.plain.unions effective members = [] := by
  simp [unions, plain]

theorem lookup?_plain (t : Setting) (name : String) :
    t.plain.registry.lookup? name = if name = Ban.keyword then none else t.registry.lookup? name :=
  Registry.lookup?_unregister ..

theorem applyKeyword_plain {name : String} (hname : name ≠ Ban.keyword) (declared : Json) :
    t.plain.applyKeyword w name declared subject members =
      t.applyKeyword w name declared subject members := by
  unfold applyKeyword
  rw [lookup?_plain, if_neg hname]

theorem applyBan_plain (checked effective : Bool) :
    t.plain.applyBan w checked effective subject members =
      (return [] : Walk (List Violation)) := by
  unfold applyBan applyKeyword
  rw [lookup?_plain, if_pos rfl]
  cases checked <;> rfl

/-- If the ban is off, the keywords of a node have the same result as in the plain setting. -/
theorem applyKeywords_plain (ht : t.registry = .ofDraft draft) :
    t.plain.applyKeywords w false false subject members =
      t.applyKeywords w false false subject members := by
  unfold applyKeywords
  cases Json.Members.find? refKeyword members with
  | some declared => exact applyKeyword_plain (by decide) declared
  | none =>
      dsimp only
      rw [applyBan_plain, applyBan_off ht]
      have hothers : ∀ entry : String × Json,
          (if entry.1 = Ban.keyword then Pure.pure []
            else t.plain.applyKeyword w entry.1 entry.2 subject members) =
          if entry.1 = Ban.keyword then Pure.pure []
            else t.applyKeyword w entry.1 entry.2 subject members := by
        intro entry
        split
        · rfl
        next hname => exact applyKeyword_plain hname entry.2
      simp only [hothers]

theorem lists_applyKeyword_plain (ht : t.registry = .ofDraft draft) (hw : w.Keeps .sparing)
    (name : String) (declared : Json) :
    Lists Violation.Spared (t.plain.applyKeyword w name declared subject members) := by
  unfold applyKeyword
  rw [lookup?_plain]
  split
  next => exact .nil
  next k hlookup =>
    split at hlookup
    next => cases hlookup
    next hname =>
      have hkeeps : k.Keeps .sparing :=
        Keyword.keeps_of_lookup?_ofDraft (ht ▸ hlookup) (fun _ _ _ _ _ h => h)
          (fun _ _ _ _ h => h) fun _ => Passage.third_sparing
      refine .map (hkeeps w hw declared subject members) fun v hv => ?_
      dsimp only
      split
      · exact hv.fill hname _ _ _
      · exact (hv.fill hname _ _ _).underSchema _

theorem lists_applyKeywords_plain (ht : t.registry = .ofDraft draft) (hw : w.Keeps .sparing)
    (checked effective : Bool) :
    Lists Violation.Spared (t.plain.applyKeywords w checked effective subject members) := by
  unfold applyKeywords
  split
  · exact lists_applyKeyword_plain ht hw _ _
  · rw [applyBan_plain]
    refine .append .nil (.collect fun entry _ => ?_)
    dsimp only
    split
    · exact .nil
    · exact lists_applyKeyword_plain ht hw _ _

theorem lists_applySchema_plain (ht : t.registry = .ofDraft draft) (hw : w.Keeps .sparing)
    (schema : Json) (override : Option Bool) :
    Lists Violation.Spared (t.plain.applySchema w subject schema override) := by
  unfold applySchema
  split
  · refine .after fun s => .after fun scope => Ensures.inNode ?_
    unfold applyMembers
    rw [unions_plain]
    refine .bind (q := (· = [])) (.pure rfl) ?_
    rintro unknown rfl
    refine .after fun _ => .bind (lists_applyKeywords_plain ht hw _ _) fun vs hvs => ?_
    exact .pure hvs
  · exact .nil

/-- In a plain setting there are no violations of the ban. -/
theorem lists_visit_plain (ht : t.registry = .ofDraft draft) (depth : Nat) (subject : Subject)
    (schema : Json) (override : Option Bool) :
    Lists Violation.Spared (t.plain.visit depth subject schema override) := by
  induction depth generalizing subject schema override with
  | zero => exact .fail _
  | succ depth ih =>
      have hw : Walker.Keeps ⟨t.plain.resolver, t.plain.findsCycles, t.plain.visit depth⟩ .sparing :=
        ih
      exact lists_applySchema_plain ht hw schema override

variable {root schema : Json} {s : WalkState} {override : Option Bool}

/-- A node that has the ban off and does not switch it on passes this on. -/
theorem frame_within_of_unbanned (own : Option Url) (hframe : s.frame.ban = false)
    (hown : ownBan members ≠ some true) (hoverride : override ≠ some true) (relieved : Bool) :
    (s.within members override own relieved).frame.ban = false ∧
      (s.within members override own relieved).frame.refOverride ≠ some true := by
  rw [frame_within, frameOf, hframe]
  refine ⟨?_, ?_⟩
  · rcases hflagged : ownBan members with - | - | -
    · rfl
    · rfl
    · exact absurd hflagged hown
  · dsimp only
    split
    · rintro ⟨⟩
    · exact hoverride

theorem getD_of_unbanned (hframe : s.frame.ban = false) (hoverride : override ≠ some true) :
    override.getD s.frame.ban = false := by
  rcases override with - | - | -
  · exact hframe
  · rfl
  · exact absurd rfl hoverride

/-- If the ban is off and stays off, a walk has the same result as in the plain setting. -/
theorem linked_plain (ht : t.registry = .ofDraft draft) (hcycles : t.findsCycles = true)
    (hs : s.scopes.Regular) (hframe : s.frame.ban = false) (hoverride : override ≠ some true)
    (hfree : t.UnbannedFrom root ⟨s.scopes.current, schema⟩) (depth : Nat) (subject : Subject) :
    Linked (.same (·.Sound t.resolver root) fun _ => True) s s
      (t.visit depth subject schema override) (t.plain.visit depth subject schema override) := by
  induction depth generalizing s schema override subject with
  | zero => exact .fail trivial
  | succ depth ih =>
      by_cases hobject : ∃ members, schema = .object members
      · obtain ⟨members, rfl⟩ := hobject
        have hoff := hfree.ownBan_ne
        refine linked_applySchema_across rfl rfl (fun _ _ => trivial) fun own hown => ?_
        rw [effectiveBan_eq_false (getD_of_unbanned hframe hoverride) hoff]
        refine { same := by simp, unions := ?_, keywords := fun relieved hrelieved => ?_ }
        · rw [unions_false]
          exact .pure _
        -- No union is checked, so that no branch is relieved either.
        obtain rfl : relieved = false := by simpa using hrelieved
        rw [applyKeywords_plain ht]
        obtain ⟨hinnerFrame, hinnerRef⟩ :=
          frame_within_of_unbanned own hframe hoff hoverride false
        have hinner : (s.within members override own false).scopes.Regular :=
          regular_within hs hown false
        have hinside (inner : Subject) (sub : Json) (hsub : t.Inside members sub) :
            Linked (.same (·.Sound t.resolver root) fun _ => True)
              (s.within members override own false) (s.within members override own false)
              (t.visit depth inner sub none) (t.plain.visit depth inner sub none) :=
          ih hinner hinnerFrame (show none ≠ some true from nofun)
            (hfree.step (applies_inside hown false hsub)) inner
        refine (program_applyKeywords ht false false).linked
          (regular_same (fun pattern m hm => hm.compile pattern) fun _ _ => trivial)
          (linked_of_course rfl rfl hcycles hcycles (fun _ => trivial) hs hown false hinside
            (hinside subject) fun target htarget hrefers => ?_)
        have hjump : ((s.within members override own false).jump target subject).scopes.Regular :=
          hinner.push htarget
        exact ih hjump hinnerFrame hinnerRef (hfree.step (.target hrefers)) subject
      · exact linked_applySchema_other fun members heq => hobject ⟨members, heq⟩

end Setting

end SchemaCheck
