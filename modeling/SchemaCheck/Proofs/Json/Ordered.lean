import Mathlib.Data.String.Basic
import SchemaCheck.Json.Parser
import SchemaCheck.Location
import SchemaCheck.Proofs.Json.Part

/-!
Values whose objects list their keys in ascending order, each key once. Every parsed value has this
property, and in such a value each member is the one that is found under its key.
-/

namespace SchemaCheck.Json

namespace Members

/-- The keys are strictly ascending. -/
def Ascending (members : Members) : Prop :=
  (keys members).Pairwise (· < ·)

variable {key : String} {value : Json} {members : Members}

theorem find?_of_mem (hasc : Ascending members) (h : (key, value) ∈ members) :
    find? key members = some value := by
  induction members with
  | nil => cases h
  | cons entry rest ih =>
      obtain ⟨k, v⟩ := entry
      obtain ⟨hfirst, hrest⟩ := List.pairwise_cons.mp hasc
      rcases List.mem_cons.mp h with heq | h
      · cases heq
        exact if_pos rfl
      · have hne : k ≠ key := by
          have hkey : key ∈ keys rest := List.mem_map.mpr ⟨_, h, rfl⟩
          exact ne_of_lt (hfirst key hkey)
        exact (if_neg hne).trans (ih hrest h)

theorem mem_insert {entry : String × Json} (h : entry ∈ insert key value members) :
    entry = (key, value) ∨ entry ∈ members := by
  induction members with
  | nil => exact .inl (List.mem_singleton.mp h)
  | cons first rest ih =>
      obtain ⟨k, v⟩ := first
      unfold insert at h
      split at h
      · exact List.mem_cons.mp h
      · split at h
        · exact (List.mem_cons.mp h).imp_right (List.mem_cons_of_mem _)
        · rcases List.mem_cons.mp h with rfl | h
          · exact .inr List.mem_cons_self
          · exact (ih h).imp_right (List.mem_cons_of_mem _)

theorem ascending_insert (hasc : Ascending members) : Ascending (insert key value members) := by
  induction members with
  | nil => exact List.pairwise_singleton ..
  | cons first rest ih =>
      obtain ⟨k, v⟩ := first
      obtain ⟨hfirst, hrest⟩ := List.pairwise_cons.mp hasc
      unfold insert
      split
      -- The member is inserted before the first one, in its place, or behind it.
      next hlt =>
        refine List.pairwise_cons.mpr ⟨fun other hother => ?_, hasc⟩
        rcases List.mem_cons.mp hother with rfl | hother
        · exact hlt
        · exact hlt.trans (hfirst other hother)
      next hnlt =>
        split
        next heq =>
          subst heq
          exact List.pairwise_cons.mpr ⟨hfirst, hrest⟩
        next hne =>
          refine List.pairwise_cons.mpr ⟨fun other hother => ?_, ih hrest⟩
          obtain ⟨entry, hentry, rfl⟩ := List.mem_map.mp hother
          rcases mem_insert hentry with rfl | hentry
          · exact lt_of_le_of_ne (not_lt.mp hnlt) (Ne.symm hne)
          · exact hfirst _ (List.mem_map.mpr ⟨entry, hentry, rfl⟩)

theorem ascending_ofList (entries : List (String × Json)) : Ascending (ofList entries) := by
  have hfold (start : Members) (hstart : Ascending start) :
      Ascending (entries.foldl (fun members entry => insert entry.1 entry.2 members) start) := by
    induction entries generalizing start with
    | nil => exact hstart
    | cons entry rest ih => exact ih _ (ascending_insert hstart)
  exact hfold [] List.Pairwise.nil

theorem mem_ofList {entry : String × Json} {entries : List (String × Json)}
    (h : entry ∈ ofList entries) : entry ∈ entries := by
  have hfold (start : Members) :
      entry ∈ entries.foldl (fun members e => insert e.1 e.2 members) start →
        entry ∈ start ∨ entry ∈ entries := by
    clear h
    induction entries generalizing start with
    | nil => exact .inl
    | cons first rest ih =>
        intro h
        rcases ih _ h with h | h
        · rcases mem_insert h with rfl | h
          · exact .inr List.mem_cons_self
          · exact .inl h
        · exact .inr (List.mem_cons_of_mem _ h)
  exact (hfold [] h).resolve_left List.not_mem_nil

end Members

/-- The keys of every object in the value are ascending. -/
def Ordered (j : Json) : Prop :=
  ∀ members, PartOf (.object members) j → Members.Ascending members

namespace Ordered

variable {j k : Json} {key : String} {items : List Json} {members : Members}

theorem part (h : Ordered k) (hpart : PartOf j k) : Ordered j :=
  fun members hmembers => h members (hmembers.trans hpart)

theorem of_items (h : ∀ item ∈ items, Ordered item) : Ordered (.array items) := by
  intro members hpart
  cases hpart with
  | item hmem hpart => exact h _ hmem members hpart

theorem of_members (hasc : Members.Ascending members)
    (h : ∀ key value, (key, value) ∈ members → Ordered value) : Ordered (.object members) := by
  intro others hpart
  cases hpart with
  | whole => exact hasc
  | member hmem hpart => exact h _ _ hmem others hpart

theorem empty : Ordered (.object []) :=
  of_members List.Pairwise.nil fun _ _ h => nomatch h

theorem single (h : Ordered j) : Ordered (.object [(key, j)]) := by
  refine of_members (List.pairwise_singleton ..) fun other value hmem => ?_
  cases List.mem_singleton.mp hmem
  exact h

theorem ascending (h : Ordered (.object members)) : Members.Ascending members :=
  h members .whole

/-- The step to the key of a member leads to its value. -/
theorem into?_key (h : Ordered (.object members)) (hmem : (key, j) ∈ members) :
    (Step.key key).into? (.object members) = some j :=
  Members.find?_of_mem h.ascending hmem

end Ordered

mutual

theorem ordered_sorted (j : Json) : Ordered (sorted j) := by
  match j with
  | .array items => exact Ordered.of_items (ordered_sortedItems items)
  | .object members =>
      refine Ordered.of_members (Members.ascending_ofList _) fun key value hmem => ?_
      exact ordered_sortedMembers members key value (Members.mem_ofList hmem)
  | .null | .bool _ | .number _ | .string _ =>
      intro members hpart
      cases hpart

theorem ordered_sortedItems (items : List Json) :
    ∀ item ∈ sortedItems items, Ordered item := by
  match items with
  | [] => simp [sortedItems]
  | j :: rest =>
      intro item hitem
      rcases List.mem_cons.mp hitem with rfl | hitem
      · exact ordered_sorted j
      · exact ordered_sortedItems rest item hitem

theorem ordered_sortedMembers (members : List (String × Json)) :
    ∀ key value, (key, value) ∈ sortedMembers members → Ordered value := by
  match members with
  | [] => simp [sortedMembers]
  | (k, j) :: rest =>
      intro key value hmem
      rcases List.mem_cons.mp hmem with heq | hmem
      · cases heq
        exact ordered_sorted j
      · exact ordered_sortedMembers rest key value hmem

end

theorem parse?_ordered {text : String} {j : Json} (h : parse? text = some j) : Ordered j := by
  obtain ⟨written, -, rfl⟩ := Option.map_eq_some_iff.mp h
  exact ordered_sorted written

end SchemaCheck.Json
