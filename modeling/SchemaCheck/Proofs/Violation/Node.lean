import SchemaCheck.Proofs.Violation.Keyword
import SchemaCheck.Proofs.Visit.Reach

/-!
The violations of nodes. The violations of a keyword are filled in and moved below its name, the ban
reports violations of the node itself, and a reference passes on the violations of its target. A
property that is preserved by keywords and by these steps holds for all violations of a walk.
-/

namespace SchemaCheck

open Walk Violation

/-- A property that is preserved by nodes as well as by keywords. -/
structure Passage.Nodes (P : Passage) : Prop where
  through : P.Through
  keyword : ∀ subject members name declared v, (name, declared) ∈ members →
    name ≠ Setting.refKeyword → P.raised subject declared v →
      P.applied subject (.object members)
        ((v.fill name declared subject.value (.object members)).underSchema (.key name))
  ban : ∀ subject members text flag schema,
    P.applied subject (.object members)
      (((ofMessage text).fill Ban.keyword (.bool flag) subject.value schema).underSchema
        (.key Ban.keyword))
  reference : ∀ subject members text schema v,
    Json.Members.find? Setting.refKeyword members = some (.string text) →
    P.applied subject schema v →
      P.applied subject (.object members)
        (v.fill Setting.refKeyword (.string text) subject.value (.object members))

namespace Setting

variable {t : Setting} {draft : Draft} {w : Walker} {P : Passage} {subject : Subject}
variable {members : Json.Members}

theorem lists_applyKeyword (ht : t.registry = .ofDraft draft) (hP : P.Nodes)
    (hthird : draft = .draft3 → P.Third) (hw : w.Keeps P) {name : String} {declared : Json}
    (hreference : name ≠ refKeyword) (hmem : (name, declared) ∈ members) :
    Lists (P.applied subject (.object members))
      (t.applyKeyword w name declared subject members) := by
  unfold applyKeyword
  split
  · exact .nil
  next k hlookup =>
    have hk : k.Keeps P :=
      Keyword.keeps_of_lookup?_ofDraft (ht ▸ hlookup) (fun h => absurd h hreference)
        (fun _ => hP.through) hthird
    refine .map (hk w hw declared subject members) fun v hv => ?_
    rw [if_neg hreference]
    exact hP.keyword _ _ _ _ _ hmem hreference hv

theorem lists_applyBan (ht : t.registry = .ofDraft draft) (hP : P.Nodes) (checked effective : Bool) :
    Lists (P.applied subject (.object members))
      (t.applyBan w checked effective subject members) := by
  unfold applyBan
  split
  · exact .nil
  · unfold applyKeyword
    rw [lookup?_ban ht]
    refine .map (Ban.lists_onObject _ _) ?_
    rintro _ ⟨text, rfl⟩
    exact hP.ban ..

/-- A reference that is not a string is a failure. -/
theorem lists_applyReference (ht : t.registry = .ofDraft draft) (hP : P.Nodes) (hw : w.Keeps P)
    {declared : Json} (hfind : Json.Members.find? refKeyword members = some declared) :
    Lists (P.applied subject (.object members))
      (t.applyKeyword w refKeyword declared subject members) := by
  unfold applyKeyword
  rw [lookup?_reference ht]
  cases declared with
  | string text =>
      have htarget : Lists (fun v => ∃ schema, P.applied subject schema v)
          (Keyword.reference w (.string text) subject members) := by
        refine .after fun target => .after fun s => ?_
        dsimp only
        split
        · exact .fail _
        · refine .after fun _ => Ensures.ensuring (Ensures.inScope ?_)
          exact Lists.mono (hw subject target.schema _) fun _ hv => ⟨_, hv⟩
      refine .map htarget ?_
      rintro v ⟨schema, hv⟩
      exact hP.reference _ _ _ _ _ hfind hv
  | _ => exact .map (q := fun _ => False) (.fail _) fun _ h => h.elim

theorem lists_applyKeywords (ht : t.registry = .ofDraft draft) (hP : P.Nodes)
    (hthird : draft = .draft3 → P.Third) (hw : w.Keeps P) (checked effective : Bool) :
    Lists (P.applied subject (.object members))
      (t.applyKeywords w checked effective subject members) := by
  unfold applyKeywords
  split
  next declared hfind => exact lists_applyReference ht hP hw hfind
  next hnone =>
    refine .append (lists_applyBan ht hP checked effective) (.collect fun entry hentry => ?_)
    dsimp only
    split
    · exact .nil
    · refine lists_applyKeyword ht hP hthird hw (fun hname => ?_) hentry
      obtain ⟨_, declared⟩ := entry
      subst hname
      exact Json.Members.find?_eq_none hnone hentry

theorem lists_applySchema (ht : t.registry = .ofDraft draft) (hP : P.Nodes)
    (hthird : draft = .draft3 → P.Third) (hw : w.Keeps P) (schema : Json)
    (override : Option Bool) :
    Lists (P.applied subject schema) (t.applySchema w subject schema override) := by
  unfold applySchema
  split
  next members =>
    refine .after fun s => .after fun scope => Ensures.inNode ?_
    unfold applyMembers
    have hunions (effective : Bool) (unions : List (List Json)) :
        Lists (P.applied subject (.object members))
          (Walk.collect (Ban.onBranches w effective subject) unions) := by
      refine .collect fun branches _ => (Ban.lists_onBranches effective branches).mono ?_
      rintro _ ⟨text, rfl⟩
      exact hP.ban ..
    refine .bind (hunions _ _) fun unknown hunknown => .after fun _ => ?_
    refine .bind (lists_applyKeywords ht hP hthird hw _ _) fun violations hviolations => ?_
    exact .pure fun v hv => (List.mem_append.mp hv).elim (hunknown v) (hviolations v)
  next => exact .nil

/-- A property that nodes preserve holds for all violations of a walk. -/
theorem lists_visit (ht : t.registry = .ofDraft draft) (hP : P.Nodes)
    (hthird : draft = .draft3 → P.Third) (depth : Nat) (subject : Subject) (schema : Json)
    (override : Option Bool) :
    Lists (P.applied subject schema) (t.visit depth subject schema override) := by
  induction depth generalizing subject schema override with
  | zero => exact .fail _
  | succ depth ih =>
      have hw : Walker.Keeps ⟨t.resolver, t.findsCycles, t.visit depth⟩ P :=
        fun subject schema override => ih subject schema override
      exact lists_applySchema ht hP hthird hw schema override

end Setting

end SchemaCheck
