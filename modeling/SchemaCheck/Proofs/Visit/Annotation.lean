import SchemaCheck.Proofs.Keyword.Rank
import SchemaCheck.Proofs.Keyword.Surrounding
import SchemaCheck.Proofs.Visit.Link
import SchemaCheck.Proofs.Visit.Reference

/-!
Names without a keyword. Removing a member under such a name does not change the result of a node,
unless the node or some other keyword reads the name: the `id` of a node, the flags of the two
bounds and, while the ban is in force, the lists of branches, which are read in every registry. If a
schema has no references, its result does not depend on the documents in the cache, including the
schema itself.
-/

namespace SchemaCheck

/-- No object in the value is a reference. -/
def Json.ReferenceFree (j : Json) : Prop :=
  ∀ part, Json.PartOf part j → part.get? Setting.refKeyword = none

namespace Json.ReferenceFree

variable {i j : Json} {members : Json.Members} {name : String} {declared sub : Json}

theorem part (h : j.ReferenceFree) (hpart : Json.PartOf i j) : i.ReferenceFree :=
  fun inner hinner => h inner (hinner.trans hpart)

theorem erase (h : (Json.object members).ReferenceFree) (key : String) :
    (Json.object (members.erase key)).ReferenceFree := by
  intro part hpart
  cases hpart with
  | whole =>
      show Json.Members.find? Setting.refKeyword (members.erase key) = none
      by_cases hkey : Setting.refKeyword = key
      · rw [hkey, Json.Members.find?_erase]
      · rw [Json.Members.find?_erase_of_ne hkey]
        exact h _ .whole
  | member hmem hpart => exact h part (.member (List.mem_filter.mp hmem).1 hpart)

/-- The schemas that a node applies have no references if the node has none. -/
theorem of_applied (h : (Json.object members).ReferenceFree) (hmem : (name, declared) ∈ members)
    (hsub : sub ∈ Keyword.applied name declared) : sub.ReferenceFree := by
  have hdeclared : declared.ReferenceFree := h.part (.of_mem_members hmem)
  rcases Keyword.applied_cases hsub with hpart | ⟨-, disallowed, hpart, rfl⟩
  · exact hdeclared.part hpart
  · -- Around a member of `disallow` stands an object with a `type` alone.
    have hdisallowed := hdeclared.part hpart
    intro inner hinner
    cases hinner with
    | whole => rfl
    | member hmem hinner =>
        cases List.mem_singleton.mp hmem
        cases hinner with
        | whole => rfl
        | item hmem hinner =>
            cases List.mem_singleton.mp hmem
            exact hdisallowed inner hinner

/-- None of the branches is a reference. -/
theorem not_looks (h : (Json.object members).ReferenceFree) (reference : String) :
    ¬ Setting.Looks members reference := by
  rintro ⟨name, -, branches, hbranches, branch, hbranch, hreference⟩
  have hmem := Json.Members.mem_of_find? (Setting.find?_of_branchesOf hbranches)
  have hpart := (Json.PartOf.of_mem_items hbranch).trans (.of_mem_members hmem)
  rw [show branch.get? "$ref" = none from h branch hpart] at hreference
  cases hreference

end Json.ReferenceFree

/-- Any two runs in which the memories have correctly compiled patterns. -/
def Link.compiled : Link where
  memories m n := m.Compiled ∧ n.Compiled
  left _ := False
  right _ := False
  both _ := True

namespace Setting

open Walk

/-- The names that are read by a node or by keywords of another name. -/
def readBeside : List String :=
  ["id", "exclusiveMinimum", "exclusiveMaximum"]

variable {t : Setting} {draft : Draft} {w : Walker} {subject : Subject}
  {members others : Json.Members} {name : String}

/-- A keyword has the same result in two schemas that agree on the members it reads, up to the
quoted schema. -/
theorem agrees_applyKeyword {name : String} {declared : Json}
    (h : ∀ keyword, t.registry.lookup? name = some keyword →
      Agrees Violation.Same (keyword w declared subject members)
        (keyword w declared subject others)) :
    Agrees Violation.Same (t.applyKeyword w name declared subject members)
      (t.applyKeyword w name declared subject others) := by
  unfold applyKeyword
  cases hlookup : t.registry.lookup? name with
  | none => exact .pure (.refl [])
  | some keyword =>
      refine .map (h keyword hlookup) fun vs ws hsame => hsame.map fun v v' hv => ?_
      have hfill := Violation.outline_fill name declared declared subject.value (.object members)
        (.object others) hv
      dsimp only
      split
      · exact hfill
      · exact Violation.outline_underSchema _ hfill

theorem agrees_applyBan (ht : t.registry = .ofDraft draft) (h : members.Alike others)
    (checked effective : Bool) :
    Agrees Violation.Same (t.applyBan w checked effective subject members)
      (t.applyBan w checked effective subject others) := by
  unfold applyBan
  split
  · exact .pure (.refl [])
  · refine agrees_applyKeyword fun keyword hlookup => ?_
    obtain rfl := Option.some.inj ((lookup?_ban ht).symm.trans hlookup)
    exact Keyword.agrees_onObject w _ subject h

/-- In two such schemas all keywords but the ban read the same members. -/
theorem agrees_applyEntry (ht : t.registry = .ofDraft draft) (h : members.Alike others)
    (entry : String × Json) :
    Agrees Violation.Same
      (if entry.1 = Ban.keyword then Pure.pure []
        else t.applyKeyword w entry.1 entry.2 subject members)
      (if entry.1 = Ban.keyword then Pure.pure []
        else t.applyKeyword w entry.1 entry.2 subject others) := by
  split
  · exact .pure (.refl [])
  next hname =>
    refine agrees_applyKeyword fun keyword hlookup => ?_
    rw [ht] at hlookup
    rw [Keyword.reserved_of_lookup?_ofDraft hlookup hname w entry.2 subject members others h]
    exact .refl .refl _

/-- A name without a keyword that neither nodes nor keywords read. -/
structure Unread (t : Setting) (name : String) : Prop where
  unknown : t.registry.lookup? name = none
  beside : name ∉ readBeside

theorem Unread.ne_of_lookup? (h : t.Unread name) {other : String} {k : Keyword}
    (hother : t.registry.lookup? other = some k) : other ≠ name := by
  rintro rfl
  rw [h.unknown] at hother
  cases hother

theorem Unread.ne_of_mem (h : t.Unread name) {other : String} (hother : other ∈ readBeside) :
    other ≠ name :=
  fun heq => h.beside (heq ▸ hother)

/-- No keyword reads the name in the schema around it. -/
theorem Unread.alike (h : t.Unread name) (ht : t.registry = .ofDraft draft)
    (members : Json.Members) : members.Alike (members.erase name) := by
  have hknown (other : String) (hother : other ∈ ["items", "properties", "patternProperties"]) :
      (t.registry.lookup? other).isSome := by
    rw [ht]
    cases draft <;> revert other <;> decide
  intro other hother
  refine (Json.Members.find?_erase_of_ne ?_ members).symm
  rcases List.mem_append.mp (show other ∈ ["items", "properties", "patternProperties"] ++
    ["exclusiveMinimum", "exclusiveMaximum"] from hother) with hother | hother
  · obtain ⟨k, hlookup⟩ := Option.isSome_iff_exists.mp (hknown other hother)
    exact h.ne_of_lookup? hlookup
  · exact h.ne_of_mem (List.mem_cons_of_mem _ hother)

theorem Unread.agrees_applyKeywords (h : t.Unread name) (ht : t.registry = .ofDraft draft)
    (members : Json.Members) (checked effective : Bool) :
    Agrees Violation.Same (t.applyKeywords w checked effective subject members)
      (t.applyKeywords w checked effective subject (members.erase name)) := by
  have halike := h.alike ht members
  have hsame : Json.Members.find? refKeyword (members.erase name) =
      Json.Members.find? refKeyword members :=
    Json.Members.find?_erase_of_ne (h.ne_of_lookup? (lookup?_reference ht)) members
  unfold applyKeywords
  rw [hsame]
  split
  · refine agrees_applyKeyword fun keyword hlookup => ?_
    obtain rfl := Option.some.inj ((lookup?_reference ht).symm.trans hlookup)
    exact .refl .refl _
  · refine .bind (agrees_applyBan ht halike checked effective) fun plain plain' hplain => ?_
    refine .map (R := Violation.Same) ?_ fun _ _ hothers => hplain.append hothers
    let applied (schema : Json.Members) (entry : String × Json) : Walk (List Violation) :=
      if entry.1 = Ban.keyword then Pure.pure []
      else t.applyKeyword w entry.1 entry.2 subject schema
    -- The member under the name is skipped.
    have hskip (entry : String × Json) (hentry : decide (entry.1 ≠ name) = false) :
        applied (members.erase name) entry = Pure.pure [] := by
      obtain rfl : entry.1 = name := by simpa using hentry
      show (if _ then _ else t.applyKeyword w entry.1 entry.2 subject _) = _
      rw [applyKeyword, h.unknown]
      exact ite_self _
    show Agrees Violation.Same (Walk.collect (applied members) members)
      (Walk.collect (applied (members.erase name)) (members.filter fun entry => entry.1 ≠ name))
    rw [collect_filter fun entry _ => hskip entry]
    exact .collect fun entry _ => agrees_applyEntry ht halike entry

/-- Removing a member does not change the unions of a node, unless it is a nonempty list of branches
and the ban is on. -/
theorem unions_erase (effective : Bool) (members : Json.Members)
    (h : name ∈ combinators → branchesOf members name = none ∨ effective = false) :
    t.unions effective (members.erase name) = t.unions effective members := by
  unfold unions
  split
  next heffective =>
    refine List.filterMap_congr fun other hother => ?_
    by_cases heq : other = name
    · subst heq
      have hnone : branchesOf (members.erase other) other = none := by
        rw [branchesOf, Json.Members.find?_erase]
      rcases h hother with hempty | hoff
      · rw [hnone, hempty]
      · simp [hoff] at heffective
    · rw [branchesOf, branchesOf, Json.Members.find?_erase_of_ne heq]
  next => rfl

/-- Only a nonempty array gives branches to combine. -/
theorem branchesOf_eq_none {declared : Json}
    (hdeclared : Json.Members.find? name members = some declared)
    (h : ∀ branch more, declared ≠ .array (branch :: more)) : branchesOf members name = none := by
  rw [branchesOf, hdeclared]
  split
  next => rfl
  next branches hne heq =>
    cases branches with
    | nil => exact absurd rfl hne
    | cons branch more => exact absurd (Option.some.inj heq) (h branch more)
  next => rfl

/-- Removing an unread member does not change the result of a node. -/
theorem Unread.agreed_visit (h : t.Unread name) (ht : t.registry = .ofDraft draft) (depth : Nat)
    (subject : Subject) (members : Json.Members) (override : Option Bool) (s : WalkState)
    (hunion : name ∈ combinators →
      branchesOf members name = none ∨ effectiveBan members override s.frame.ban = false) :
    Agreed Violation.Same (t.visit depth subject (.object members) override s)
      (t.visit depth subject (.object (members.erase name)) override s) := by
  cases depth with
  | zero => exact .error .tooDeep s
  | succ depth =>
      refine agreed_applySchema
        (Json.Members.find?_erase_of_ne (h.ne_of_mem List.mem_cons_self) members)
        (Json.Members.find?_erase_of_ne (h.ne_of_lookup? (lookup?_ban ht)) members) ?_
      unfold applyMembers
      rw [unions_erase _ _ hunion]
      refine .bind (.refl Violation.Same.refl _) fun unknown unknown' hunknown => ?_
      refine .bind (.refl (fun _ => rfl) _) fun _ _ _ => ?_
      exact .map (h.agrees_applyKeywords ht members _ _) fun _ _ hsame => hunknown.append hsame

/-- The result of a schema without references does not depend on the documents in the cache. -/
theorem linked_visit_of_referenceFree (ht : t.registry = .ofDraft draft) {schema : Json}
    (h : schema.ReferenceFree) (depth : Nat) (subject : Subject) (override : Option Bool)
    (a : WalkState) :
    Linked .compiled a a (t.visit depth subject schema override)
      (t.visit depth subject schema override) := by
  have hregular : Regular .compiled := regular_of_compiled (fun _ _ => trivial) (fun _ _ => id)
    fun pattern _ _ hmem =>
      ⟨Memory.compiled_compile hmem.1 pattern, Memory.compiled_compile hmem.2 pattern⟩
  induction depth generalizing subject schema override a with
  | zero => exact .fail trivial
  | succ depth ih =>
      cases schema with
      | object members =>
          have hinside (sub : Json) (hsub : t.Inside members sub) : sub.ReferenceFree := by
            obtain ⟨-, entry, hmem, -, happlied⟩ := hsub
            exact h.of_applied hmem happlied
          refine linked_applySchema (fun _ _ => trivial) hregular.regex ht rfl rfl
            (fun _ _ => trivial) fun scope _ relieved _ =>
            { resolve := fun reference hlook => absurd hlook (h.not_looks reference)
              descend := fun inner sub _ hsub => ih (hinside sub hsub) inner none _
              branch := fun sub hsub => linked_branch rfl (ih (hinside sub hsub) _ _ _)
              refer := fun reference hreference => ?_ }
          have hnone : Json.Members.find? refKeyword members = none := h _ .whole
          rw [show Json.Members.find? refKeyword members = some (.string reference) from hreference]
            at hnone
          cases hnone
      | _ => exact .pure _

end Setting

end SchemaCheck
