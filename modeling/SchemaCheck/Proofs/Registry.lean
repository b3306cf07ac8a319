import SchemaCheck.Registry

/-!
Lookup in a registry. The entries of the two drafts are those of their lists, each under the name it
was registered by. Other registries may contain the same keywords under other names.
-/

namespace SchemaCheck.Registry

variable {name : String} {k : Keyword} {entries : List (String × Keyword)}

theorem mem_insertEntry {entry : String × Keyword} (h : entry ∈ insertEntry name k entries) :
    entry = (name, k) ∨ entry ∈ entries := by
  induction entries with
  | nil => exact .inl (List.mem_singleton.mp h)
  | cons first rest ih =>
      obtain ⟨n, l⟩ := first
      unfold insertEntry at h
      split at h
      · exact List.mem_cons.mp h
      · split at h
        · exact (List.mem_cons.mp h).imp_right (List.mem_cons_of_mem _)
        · rcases List.mem_cons.mp h with rfl | h
          · exact .inr List.mem_cons_self
          · exact (ih h).imp_right (List.mem_cons_of_mem _)

theorem mem_entries_ofList {entry : String × Keyword} (h : entry ∈ (ofList entries).entries) :
    entry ∈ entries := by
  have hfold (r : Registry) :
      entry ∈ (entries.foldl (fun r e => r.register e.1 e.2) r).entries →
        entry ∈ r.entries ∨ entry ∈ entries := by
    clear h
    induction entries generalizing r with
    | nil => exact .inl
    | cons first rest ih =>
        intro h
        rcases ih _ h with h | h
        · rcases mem_insertEntry h with rfl | h
          · exact .inr List.mem_cons_self
          · exact .inl h
        · exact .inr (List.mem_cons_of_mem _ h)
  exact (hfold empty h).resolve_left List.not_mem_nil

theorem mem_of_lookup? {r : Registry} (h : r.lookup? name = some k) : (name, k) ∈ r.entries := by
  obtain ⟨entry, hfind, rfl⟩ := Option.map_eq_some_iff.mp h
  have hname : entry.1 = name := by simpa using List.find?_some hfind
  subst hname
  exact List.mem_of_find?_eq_some hfind

/-- Unregistering a name removes its entry and keeps all others. -/
theorem lookup?_unregister (r : Registry) (name other : String) :
    (r.unregister other).lookup? name = if name = other then none else r.lookup? name := by
  unfold lookup? unregister
  rw [List.find?_filter]
  split
  next heq =>
    rw [List.find?_eq_none.mpr fun entry _ => by simp [heq]]
    rfl
  next hne =>
    congr 2
    funext entry
    by_cases hentry : entry.1 = name
    · simp [hentry, hne]
    · simp [hentry]

/-- Registering a name replaces its entry and keeps all others. -/
theorem lookup?_register (r : Registry) (name other : String) (k : Keyword) :
    (r.register other k).lookup? name = if name = other then some k else r.lookup? name := by
  have hfirst (entries : List (String × Keyword)) :
      (((other, k) :: entries).find? (·.1 = name)).map (·.2) =
        if name = other then some k else (entries.find? (·.1 = name)).map (·.2) := by
    by_cases h : name = other
    · simp [h]
    · simp [h, Ne.symm h]
  unfold lookup? register
  dsimp only
  induction r.entries with
  | nil => exact hfirst []
  | cons first rest ih =>
      obtain ⟨n, l⟩ := first
      unfold insertEntry
      split
      · exact hfirst _
      · split
        next heq =>
          subst heq
          rw [hfirst]
          by_cases h : name = other
          · simp [h]
          · simp [h, Ne.symm h]
        next hne =>
          by_cases h : n = name
          · have hother : name ≠ other := fun heq => hne (heq.symm.trans h.symm)
            simp [h, hother]
          · simpa [h] using ih

theorem mem_of_lookup?_draft4 (h : draft4.lookup? name = some k) :
    (name, k) ∈ shared ++ draft4Only :=
  mem_entries_ofList (mem_of_lookup? h)

theorem mem_of_lookup?_draft3 (h : draft3.lookup? name = some k) :
    (name, k) ∈ shared ++ draft3Only :=
  mem_entries_ofList (mem_of_lookup? h)

/-- A property of the shared keywords and of those of each draft holds for every keyword of a
draft. -/
theorem of_lookup?_ofDraft {p : String → Keyword → Prop} {draft : Draft}
    (hshared : ∀ e ∈ shared, p e.1 e.2) (h4 : ∀ e ∈ draft4Only, p e.1 e.2)
    (h3 : ∀ e ∈ draft3Only, p e.1 e.2) (h : (ofDraft draft).lookup? name = some k) :
    p name k := by
  cases draft with
  | draft3 =>
      rcases List.mem_append.mp (mem_of_lookup?_draft3 h) with h | h
      · exact hshared _ h
      · exact h3 _ h
  | draft4 =>
      rcases List.mem_append.mp (mem_of_lookup?_draft4 h) with h | h
      · exact hshared _ h
      · exact h4 _ h

/-- Every keyword of the registry belongs to one of the drafts, under whatever name. -/
def Preset (r : Registry) : Prop :=
  ∀ entry ∈ r.entries, ∃ own, (own, entry.2) ∈ shared ++ (draft4Only ++ draft3Only)

theorem preset_ofDraft (draft : Draft) : (ofDraft draft).Preset := by
  intro entry h
  refine ⟨entry.1, ?_⟩
  cases draft with
  | draft3 =>
      rcases List.mem_append.mp (mem_entries_ofList h) with h | h
      · exact List.mem_append_left _ h
      · exact List.mem_append_right _ (List.mem_append_right _ h)
  | draft4 =>
      rcases List.mem_append.mp (mem_entries_ofList h) with h | h
      · exact List.mem_append_left _ h
      · exact List.mem_append_right _ (List.mem_append_left _ h)

end SchemaCheck.Registry
