import SchemaCheck.Proofs.Keyword.Union
import SchemaCheck.Proofs.Violation.Keyword
import SchemaCheck.Proofs.Visit.Independence

/-!
Nodes that combine branches under the ban. The ban checks the declarations of all branches together,
and the branches are applied without it. The violations of the ban for the value itself are
therefore the reports on its combinators.
-/

namespace SchemaCheck

open Walk

/-- The violation belongs to the ban, and is about the value that the schema was applied to and not
about a part of it. -/
abbrev Violation.BansHere (v : Violation) : Prop :=
  v.path = [] ∧ v.keyword = some Ban.keyword

/-- The passage of violations through keywords other than the ban. -/
def Passage.unbanned : Passage where
  applied _ _ _ := True
  lifted _ _ _ := True
  raised _ _ v := ¬ v.BansHere
  lift _ _ _ _ _ _ _ := trivial
  message _ _ _ := nofun
  context _ _ _ _ _ := nofun
  inside _ _ _ _ _ _ _ _ _ _ := nofun

namespace Ban

/-- No keyword of the node but its combinators passes on violations about the value of the node. -/
def Apart (members : Json.Members) : Prop :=
  ∀ entry ∈ members, entry.1 ≠ Setting.refKeyword ∧
    (entry.1 = "dependencies" → Keyword.applied entry.1 entry.2 = [])

/-- A schema without a flag of the ban, without patterns, and without keywords that pass on violations
about its value. -/
def Plain : Json → Prop
  | .object members =>
    Apart members ∧ ∀ entry ∈ members, entry.1 ∉ [keyword, "patternProperties", "allOf"]
  | _ => True

variable {members : Json.Members} {schema : Json}

theorem Apart.find?_ref (h : Apart members) :
    Json.Members.find? Setting.refKeyword members = none := by
  cases hfind : Json.Members.find? Setting.refKeyword members with
  | none => rfl
  | some declared => exact absurd rfl (h _ (Json.Members.mem_of_find? hfind)).1

theorem Plain.find?_eq_none (h : Plain (.object members)) {name : String}
    (hname : name ∈ [keyword, "patternProperties", "allOf"]) :
    Json.Members.find? name members = none := by
  cases hfind : Json.Members.find? name members with
  | none => rfl
  | some declared => exact absurd hname (h.2 _ (Json.Members.mem_of_find? hfind))

theorem Plain.get?_ref (h : Plain schema) : schema.get? "$ref" = none := by
  cases schema with
  | object members => exact h.1.find?_ref
  | _ => rfl

theorem Plain.patterns (h : Plain schema) : declaredKeys "patternProperties" schema = [] := by
  unfold declaredKeys
  cases schema with
  | object members =>
      have hnone : Json.get? "patternProperties" (.object members) = none :=
        h.find?_eq_none (by decide)
      rw [hnone]
  | _ => rfl

end Ban

namespace Setting

variable {t : Setting} {w : Walker} {subject : Subject} {members : Json.Members} {s : WalkState}
variable {root schema branch : Json}

/-- The schema that a branch stands for: itself, or the target of a lone reference with a new
cache. -/
inductive Covered (t : Setting) (root : Json) (scope : Url) : Json → Json → Prop
  | itself {branch : Json} : Ban.Plain branch → Covered t root scope branch branch
  | reference {text : String} {target : Target} :
      ((t.resolver.resolve text (.ofBase scope)).run (t.resolver.seed root)).1 = .ok target →
      Ban.Plain target.schema →
      Covered t root scope (.object [(refKeyword, .string text)]) target.schema

namespace Covered

variable {scope : Url} {other : Json}

theorem plain (h : t.Covered root scope branch schema) : Ban.Plain schema := by
  cases h with
  | itself hplain => exact hplain
  | reference _ hplain => exact hplain

theorem unique (h : t.Covered root scope branch schema) (hother : t.Covered root scope branch other) :
    schema = other := by
  cases h with
  | itself hplain =>
      cases hother with
      | itself _ => rfl
      | reference _ _ => exact absurd hplain.get?_ref (Option.some_ne_none _)
  | reference hresolves _ =>
      cases hother with
      | itself hplain => exact absurd hplain.get?_ref (Option.some_ne_none _)
      | reference hresolves' _ =>
          rw [hresolves] at hresolves'
          cases hresolves'
          rfl

end Covered

variable {override : Option Bool} {own : Option Url} {effective : Bool}
variable {I : Memory → Prop} {p q : List Violation → Prop}

/-- The violations of a node are those of its unions, followed by those of its keywords. -/
theorem exists_of_applySchema_ok {m : Memory} {vs : List Violation} {s' : WalkState}
    (hown : declaredScope members s.scopes = .ok own)
    (heffective : effectiveBan members override s.frame.ban = effective)
    (h : t.applySchema w subject (.object members) override (s.remember m) = (.ok vs, s')) :
    ∃ unknown others inner inner', vs = unknown ++ others ∧ s' = outside s own inner' ∧
      Walk.collect (Ban.onBranches w effective subject) (t.unions effective members)
        ((s.within members override own false).remember m) = (.ok unknown, inner) ∧
      t.applyKeywords w (!(t.unions effective members).isEmpty) effective subject members
        (inner.relieve !(t.unions effective members).isEmpty) = (.ok others, inner') := by
  subst heffective
  rcases hmembers : t.applyMembers w (effectiveBan members override s.frame.ban) subject members
    ((s.within members override own false).remember m) with ⟨result, after⟩
  rw [applySchema_apply hown m, hmembers] at h
  cases h
  obtain ⟨unknown, inner, hunions, hnext⟩ := exists_of_bind_ok hmembers
  obtain ⟨-, _, ⟨⟩, hnext⟩ := exists_of_bind_ok hnext
  obtain ⟨others, _, hkeywords, hlast⟩ := exists_of_bind_ok hnext
  cases hlast
  exact ⟨unknown, others, inner, after, rfl, rfl, hunions, hkeywords⟩

/-- The result of a node, from the results of its unions and of its keywords inside the node. -/
theorem answers_applySchema (hown : declaredScope members s.scopes = .ok own)
    (heffective : effectiveBan members override s.frame.ban = effective)
    (hunions : Answers I (s.within members override own false) p
      (Walk.collect (Ban.onBranches w effective subject) (t.unions effective members)))
    (hkeywords : Answers I (s.within members override own !(t.unions effective members).isEmpty) q
      (t.applyKeywords w (!(t.unions effective members).isEmpty) effective subject members)) :
    Answers I s (fun vs => ∃ unknown others, p unknown ∧ q others ∧ vs = unknown ++ others)
      (t.applySchema w subject (.object members) override) := by
  intro m hm vs u hrun
  obtain ⟨unknown, others, inner, inner', rfl, rfl, hfirst, hsecond⟩ :=
    exists_of_applySchema_ok hown heffective hrun
  obtain ⟨hunknown, n, hn, rfl⟩ := hunions m hm unknown _ hfirst
  obtain ⟨hothers, n', hn', rfl⟩ := hkeywords n hn others _ hsecond
  exact ⟨⟨unknown, others, hunknown, hothers, rfl⟩, n', hn', outside_within s own _ n'⟩

/-- A node whose `id` cannot be joined with the scope has no result. -/
theorem answers_applySchema_error {e : SchemaError}
    (h : declaredScope members s.scopes = .error e) :
    Answers I s q (t.applySchema w subject (.object members) override) := by
  intro m hm vs u hrun
  rw [applySchema_of_error (s := s.remember m) subject override h] at hrun
  cases hrun

/-- The violations of a keyword in a node are filled in and moved below its name. -/
theorem answers_applyKeyword_of {name : String} {declared : Json} {k : Keyword}
    {p q : Violation → Prop} (hlookup : t.registry.lookup? name = some k)
    (hfill : ∀ v : Violation, p v →
      let filled := v.fill name declared subject.value (.object members)
      q (if name = refKeyword then filled else filled.underSchema (.key name)))
    (h : Answers I s (fun vs => ∀ v ∈ vs, p v) (k w declared subject members)) :
    Answers I s (fun vs => ∀ v ∈ vs, q v) (t.applyKeyword w name declared subject members) := by
  unfold applyKeyword
  rw [hlookup]
  refine .map h fun vs hvs v hv => ?_
  obtain ⟨raised, hraised, rfl⟩ := List.mem_map.mp hv
  exact hfill raised (hvs raised hraised)

/-- In a node without a reference, a property of the violations of each keyword holds for those of
the node, if the ban reports nothing. -/
theorem answers_applyKeywords_of {q : Violation → Prop} {checked : Bool}
    (hnone : Json.Members.find? refKeyword members = none)
    (hban : t.applyBan w checked effective subject members = (return [] : Walk (List Violation)))
    (hothers : ∀ entry ∈ members, entry.1 ≠ Ban.keyword →
      Answers I s (fun vs => ∀ v ∈ vs, q v)
        (t.applyKeyword w entry.1 entry.2 subject members)) :
    Answers I s (fun vs => ∀ v ∈ vs, q v)
      (t.applyKeywords w checked effective subject members) := by
  unfold applyKeywords
  rw [hnone, hban]
  refine .bind (p := (· = [])) (.pure rfl) ?_
  rintro plain rfl
  refine .map (.lists fun entry hentry => ?_) fun vs hvs => hvs
  dsimp only
  split
  next => exact .pure fun _ hv => nomatch hv
  next hname => exact hothers entry hentry hname

/-- A property of all possible elements of a result holds for the result. -/
theorem answers_of_alike {α : Type} {q : α → Prop} {x : Walk α}
    (h : Linked (.alike t.resolver root) s s x x) (hq : Ensures q x) :
    Answers (·.Sound t.resolver root) s q x := by
  intro m hm a u hrun
  obtain ⟨n, hn, hcontext⟩ := (h m m ⟨hm, hm⟩).leaves_of_alike
  rw [hrun] at hcontext
  exact ⟨hq _ a (by rw [hrun]), n, hn, hcontext⟩

/-- A reference has the same target as with a new cache. -/
theorem answers_resolve (hw : w.resolver = t.resolver) (hs : s.scopes.Regular)
    (reference : String) :
    Answers (·.Sound t.resolver root) s
      (fun target => ((t.resolver.resolve reference (.ofBase s.scopes.current)).run
        (t.resolver.seed root)).1 = .ok target) (w.resolve reference) := by
  intro m hm target u hrun
  have hfound := resolve_eq_ok (congrArg Prod.fst hrun)
  obtain ⟨hsame, hlearnt⟩ := Resolver.sound_resolve hm.cache hs.current reference
  rw [resolve_apply, hw] at hrun
  rw [hw] at hfound
  exact ⟨hsame ▸ hfound, { m with cache := _ }, ⟨hlearnt, hm.compiled⟩,
    (congrArg Prod.snd hrun).symm⟩

/-- A branch is applied under the override of the frame. -/
theorem answers_applyBranch
    (h : Answers I s q
      (w.visit subject branch (if s.frame.suppressBranchBan then some false else none))) :
    Answers I s q (w.applyBranch subject branch) :=
  fun m hm vs u hrun => h m hm vs u hrun

theorem answers_follow {reference : String} {target : Target}
    (h : Answers I (s.jump target subject) q
      (w.visit subject target.schema s.frame.refOverride)) :
    Answers I s q (w.follow reference target subject) := by
  intro m hm vs u hrun
  rw [follow_apply] at hrun
  split at hrun
  next => cases hrun
  next =>
    rcases hinside : w.visit subject target.schema s.frame.refOverride
      ((s.jump target subject).remember m) with ⟨result, after⟩
    obtain ⟨rfl, rfl⟩ := Prod.mk.inj (hinside ▸ hrun)
    obtain ⟨hvs, n, hn, rfl⟩ := h m hm vs after hinside
    exact ⟨hvs, n, hn, rfl⟩

variable (ht : t.registry = .draft4) (hs : s.scopes.Regular)

include ht hs

omit ht hs in
/-- The violations of `allOf` are those of its branches, each below its index. -/
theorem answers_allOf_of {declared : Json} {p : Violation → Prop}
    (h : ∀ branch ∈ declared.elements, Answers I s (fun vs => ∀ v ∈ vs, p v)
      (w.visit subject branch (if s.frame.suppressBranchBan then some false else none))) :
    Answers I s (fun vs => ∀ v ∈ vs, ∃ i inner, p inner ∧ v = inner.nested none (some (.index i)))
      (Keyword.allOf w declared subject members) := by
  unfold Keyword.allOf
  split
  next branches =>
    refine .lists fun entry hentry => ?_
    refine .map (answers_applyBranch (h entry.1 (List.fst_mem_of_mem_zipIdx hentry)))
      fun vs hvs v hv => ?_
    obtain ⟨inner, hinner, rfl⟩ := List.mem_map.mp hv
    exact ⟨entry.2, inner, hvs inner hinner, rfl⟩
  next => exact .pure fun _ hv => nomatch hv

end Setting

end SchemaCheck
