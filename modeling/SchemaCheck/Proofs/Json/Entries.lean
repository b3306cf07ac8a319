import Mathlib.Data.List.Dedup
import Mathlib.Data.List.Induction
import Mathlib.Data.List.Nodup
import SchemaCheck.Proofs.Json.Ordered

/-!
Objects built from lists of entries. The object has one member per key, with the value of the last
entry for that key. It has as many members as there are entries if and only if no key is repeated,
and a list in ascending order is the object that it builds.
-/

namespace SchemaCheck.Json.Members

variable {key : String} {value : Json} {entries members : List (String × Json)}

theorem ofList_concat (entries : List (String × Json)) (entry : String × Json) :
    ofList (entries ++ [entry]) = insert entry.1 entry.2 (ofList entries) := by
  rw [ofList, List.foldl_concat]
  rfl

/-- Lookup finds the value of the last entry for the key. -/
theorem find?_ofList (before : List (String × Json)) {after : List (String × Json)}
    (h : key ∉ keys after) : find? key (ofList (before ++ (key, value) :: after)) = some value := by
  induction after using List.reverseRecOn with
  | nil => rw [ofList_concat, find?_insert]
  | append_singleton after entry ih =>
      rw [keys, List.map_append, List.mem_append, List.map_singleton, List.mem_singleton,
        not_or] at h
      rw [← List.cons_append, ← List.append_assoc, ofList_concat, find?_insert_of_ne h.2]
      exact ih h.1

theorem mem_keys_insert {other : String} :
    other ∈ keys (insert key value members) ↔ other = key ∨ other ∈ keys members := by
  induction members with
  | nil => simp [insert, keys]
  | cons entry rest ih =>
      obtain ⟨k, v⟩ := entry
      unfold insert
      split
      · simp [keys]
      · split
        next heq => simp [keys, heq]
        next =>
          have hcons (rest : Members) : keys ((k, v) :: rest) = k :: keys rest := rfl
          rw [hcons, hcons, List.mem_cons, List.mem_cons, ih, or_left_comm]

theorem mem_keys_ofList : key ∈ keys (ofList entries) ↔ key ∈ keys entries := by
  induction entries using List.reverseRecOn with
  | nil => exact Iff.rfl
  | append_singleton entries entry ih =>
      rw [ofList_concat, mem_keys_insert, ih]
      simp [keys, or_comm]

/-- The keys are those of the entries, each once. -/
theorem keys_ofList_perm (entries : List (String × Json)) :
    (keys (ofList entries)).Perm (keys entries).dedup := by
  have hnodup : (keys (ofList entries)).Nodup :=
    (ascending_ofList entries).imp fun hlt => ne_of_lt hlt
  refine (List.perm_ext_iff_of_nodup hnodup (List.nodup_dedup _)).mpr fun key => ?_
  rw [List.mem_dedup, mem_keys_ofList]

theorem length_ofList_eq_iff :
    (ofList entries).length = entries.length ↔ (keys entries).Nodup := by
  have hlength : (ofList entries).length = (keys entries).dedup.length := by
    rw [← (keys_ofList_perm entries).length_eq, keys, List.length_map]
  have hentries : entries.length = (keys entries).length := (List.length_map _).symm
  rw [hlength, hentries, ← List.dedup_eq_self]
  exact ⟨(List.dedup_sublist _).eq_of_length, congrArg List.length⟩

theorem insert_last (h : ∀ other ∈ keys members, other < key) :
    insert key value members = members ++ [(key, value)] := by
  induction members with
  | nil => rfl
  | cons entry rest ih =>
      obtain ⟨k, v⟩ := entry
      have hlt : k < key := h k List.mem_cons_self
      rw [insert, if_neg hlt.not_gt, if_neg hlt.ne', ih fun other hother =>
        h other (List.mem_cons_of_mem _ hother), List.cons_append]

/-- Building an object from ascending members changes nothing. -/
theorem ofList_eq_self (h : Ascending members) : ofList members = members := by
  induction members using List.reverseRecOn with
  | nil => rfl
  | append_singleton members entry ih =>
      rw [Ascending, keys, List.map_append, List.pairwise_append] at h
      rw [ofList_concat, ih h.1]
      exact insert_last fun other hother => h.2.2 other hother entry.1 (by simp)

end SchemaCheck.Json.Members
