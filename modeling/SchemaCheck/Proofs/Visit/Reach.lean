import SchemaCheck.Proofs.Keyword.Reach

/-!
The reach of a node. Its keywords apply schemas of the node to the subject and its parts, or follow
the reference of the node.
-/

namespace SchemaCheck.Setting

open Walk

variable {t : Setting} {draft : Draft} {subject : Subject} {schema : Json.Members}

/-- The schemas that the keywords of a node may apply. A node with a reference runs no other
keyword. -/
def Inside (t : Setting) (schema : Json.Members) (sub : Json) : Prop :=
  Json.Members.find? refKeyword schema = none ∧
    ∃ entry ∈ schema, t.registry.contains entry.1 ∧ sub ∈ Keyword.applied entry.1 entry.2

/-- The reference is that of a branch whose union may be checked at the node. -/
def Looks (schema : Json.Members) (reference : String) : Prop :=
  ∃ name ∈ combinators, ∃ branches, branchesOf schema name = some branches ∧
    ∃ branch ∈ branches, (branch.get? "$ref").bind Json.string? = some reference

/-- The reference is that of the node or of one of its branches. -/
def Names (schema : Json.Members) (reference : String) : Prop :=
  Json.Members.find? refKeyword schema = some (.string reference) ∨ Looks schema reference

/-- The node declares minus one as a divisor, under a registered name for divisors, and the value is
the least signed integer. -/
def Overflows (t : Setting) (value : Json) (schema : Json.Members) : Prop :=
  value = .leastSigned ∧
    ∃ name ∈ Keyword.divisors, t.registry.contains name ∧ (name, .minusOne) ∈ schema

/-- The reach of a node. -/
def reachOf (t : Setting) (subject : Subject) (schema : Json.Members) : Reach :=
  ⟨subject, t.Inside schema,
    fun reference => Json.Members.find? refKeyword schema = some (.string reference),
    Looks schema, t.Overflows subject.value schema⟩

theorem program_applyKeyword (ht : t.registry = .ofDraft draft) (name : String)
    (declared : Json) :
    Program (Keyword.reach name declared subject) fun w =>
      t.applyKeyword w name declared subject schema := by
  unfold applyKeyword
  cases hlookup : t.registry.lookup? name with
  | none => exact .nil
  | some k => exact .map (Keyword.reaches_of_lookup?_ofDraft (ht ▸ hlookup) _ _ _) _

theorem program_applyBan (ht : t.registry = .ofDraft draft) {r : Reach}
    (hsubject : subject = r.subject) (checked effective : Bool) :
    Program r fun w => t.applyBan w checked effective subject schema := by
  unfold applyBan
  refine .ite .nil ((program_applyKeyword ht _ _).mono hsubject ?_ ?_ ?_ ?_)
  · exact fun _ h => nomatch h
  · exact fun _ h => nomatch h.2
  · exact fun _ h => h.elim
  · exact fun h => nomatch h.2.1

/-- Both drafts have the keyword for references. -/
theorem lookup?_reference (ht : t.registry = .ofDraft draft) :
    t.registry.lookup? refKeyword = some Keyword.reference := by
  rw [ht]
  cases draft <;> rfl

theorem lookup?_ban (ht : t.registry = .ofDraft draft) :
    t.registry.lookup? Ban.keyword = some Ban.onObject := by
  rw [ht]
  cases draft <;> rfl

/-- The ban reports nothing if it is off. -/
theorem applyBan_off {w : Walker} (ht : t.registry = .ofDraft draft) :
    t.applyBan w false false subject schema = (return [] : Walk (List Violation)) := by
  show t.applyKeyword w Ban.keyword (.bool false) subject schema = _
  unfold applyKeyword
  rw [lookup?_ban ht]
  rfl

/-- A keyword of a node without a reference runs within the reach of the node. -/
theorem program_applyEntry (ht : t.registry = .ofDraft draft)
    (hnone : Json.Members.find? refKeyword schema = none) {entry : String × Json}
    (hentry : entry ∈ schema) :
    Program (t.reachOf subject schema) fun w =>
      t.applyKeyword w entry.1 entry.2 subject schema := by
  by_cases hknown : t.registry.contains entry.1
  · refine (program_applyKeyword ht _ _).mono rfl (fun sub hsub => ?_) (fun reference h => ?_)
      (fun _ h => h.elim) fun ⟨hname, hdeclared, hvalue⟩ => ?_
    · exact ⟨hnone, entry, hentry, hknown, hsub⟩
    · have hmem : (refKeyword, entry.2) ∈ schema := h.1 ▸ hentry
      exact absurd hmem (Json.Members.find?_eq_none hnone)
    · exact ⟨hvalue, entry.1, hname, hknown, hdeclared ▸ hentry⟩
  · have hlookup : t.registry.lookup? entry.1 = none := by
      simpa [Registry.contains] using hknown
    unfold applyKeyword
    rw [hlookup]
    exact .nil

theorem program_applyKeywords (ht : t.registry = .ofDraft draft) (checked effective : Bool) :
    Program (t.reachOf subject schema) fun w =>
      t.applyKeywords w checked effective subject schema := by
  unfold applyKeywords
  cases hreference : Json.Members.find? refKeyword schema with
  | some declared =>
      refine (program_applyKeyword ht _ _).mono rfl (fun _ h => nomatch h) (fun reference h => ?_)
        (fun _ h => h.elim) fun h => absurd h.1 (by decide)
      show Json.Members.find? refKeyword schema = some (.string reference)
      rw [hreference, h.2]
  | none =>
      refine .bind (program_applyBan ht rfl _ _) fun plain => .map (.collect fun entry hentry => ?_) _
      exact .ite .nil (program_applyEntry ht hreference hentry)

theorem find?_of_branchesOf {name : String} {branches : List Json}
    (h : branchesOf schema name = some branches) :
    Json.Members.find? name schema = some (.array branches) := by
  unfold branchesOf at h
  split at h
  · cases h
  next hfind =>
    cases h
    exact hfind
  · cases h

theorem mem_unions {effective : Bool} {branches : List Json}
    (h : branches ∈ t.unions effective schema) :
    ∃ name ∈ combinators, branchesOf schema name = some branches := by
  unfold unions at h
  split at h
  · obtain ⟨name, hname, hbranches⟩ := List.mem_filterMap.mp h
    exact ⟨name, hname, hbranches⟩
  · cases h

/-- Checking the unions of a node applies no schemas and follows no references. -/
theorem program_unions {r : Reach} (hlooks : ∀ reference, Looks schema reference → r.looks reference)
    (effective checked : Bool) (subject : Subject) :
    Program r fun w =>
      Walk.collect (Ban.onBranches w effective subject) (t.unions checked schema) := by
  refine .collect fun branches hbranches => Ban.program_onBranches effective subject ?_
  intro branch hbranch reference hreference
  obtain ⟨name, hname, hdeclared⟩ := mem_unions hbranches
  exact hlooks reference ⟨name, hname, branches, hdeclared, branch, hbranch, hreference⟩

variable (ht : t.registry.Preset)

include ht

/-- In a preset registry, where names may differ from those of the drafts, keywords still apply
schemas to the subject and its parts only. -/
theorem free_applyKeyword (name : String) (declared : Json) :
    Program (.free subject) fun w => t.applyKeyword w name declared subject schema := by
  unfold applyKeyword
  cases hlookup : t.registry.lookup? name with
  | none => exact .nil
  | some k =>
      obtain ⟨own, hk⟩ := Keyword.exists_reaches ht (Registry.mem_of_lookup? hlookup)
      exact ((hk declared subject schema).free rfl).map _

theorem free_applyKeywords (checked effective : Bool) :
    Program (.free subject) fun w => t.applyKeywords w checked effective subject schema := by
  unfold applyKeywords
  cases Json.Members.find? refKeyword schema with
  | some declared => exact free_applyKeyword ht _ _
  | none =>
      refine .bind (.ite .nil (free_applyKeyword ht _ _)) fun plain => .map ?_ _
      exact .collect fun entry _ => .ite .nil (free_applyKeyword ht _ _)

end SchemaCheck.Setting
