import SchemaCheck.Proofs.Keyword.Reach

/-!
A measure that decreases from every schema to the schemas that it applies. These are less deep than
the schema itself, except for the ones that `disallow` builds around its members, which can have the
same depth but have no `disallow` of their own.
-/

namespace SchemaCheck

namespace Json

def rank (j : Json) : Nat :=
  2 * j.nesting + if (j.get? "disallow").isSome then 1 else 0

theorem rank_le (j : Json) : j.rank ≤ 2 * j.nesting + 1 := by
  unfold rank
  split <;> omega

theorem rank_lt_of_nesting_lt {j k : Json} (h : j.nesting < k.nesting) : j.rank < k.rank := by
  have hj := j.rank_le
  have hk : 2 * k.nesting ≤ k.rank := Nat.le_add_right ..
  omega

/-- The schema that `disallow` tries for one of its members. -/
def typed (disallowed : Json) : Json :=
  .object [("type", .array [disallowed])]

/-- A part of a document, or a schema that `disallow` builds around such a part. -/
def DrawnFrom (j document : Json) : Prop :=
  PartOf j document ∨ ∃ k, PartOf k document ∧ j = k.typed

theorem rank_typed (j : Json) : j.typed.rank = 2 * (j.nesting + 1) := by
  simp [rank, typed, nesting, nestingMembers, nestingItems, get?, Members.find?]

theorem ids_typed (j : Json) : j.typed.ids = j.ids := by
  simp [typed, ids, idsOfMembers, idsOfItems, Members.find?]

end Json

namespace Keyword

variable {name : String} {declared sub : Json}

theorem part_of_mem_elements (h : sub ∈ declared.elements) : Json.PartOf sub declared := by
  cases declared with
  | array items => exact .of_mem_items h
  | _ => cases h

theorem part_of_mem_values (h : sub ∈ declared.values) : Json.PartOf sub declared := by
  cases declared with
  | object members =>
      obtain ⟨⟨key, value⟩, hmem, rfl⟩ := List.mem_map.mp h
      exact .of_mem_members hmem
  | _ => cases h

theorem part_of_mem_singleton (h : sub ∈ [declared]) : Json.PartOf sub declared := by
  cases List.mem_singleton.mp h
  exact .whole

theorem part_of_mem_members (h : sub ∈ Draft3.members declared) : Json.PartOf sub declared := by
  unfold Draft3.members at h
  split at h
  · exact .of_mem_items h
  · exact part_of_mem_singleton h

theorem part_of_mem_items (h : sub ∈ if declared.isObject then [declared] else declared.elements) :
    Json.PartOf sub declared := by
  split at h
  · exact part_of_mem_singleton h
  · exact part_of_mem_elements h

/-- A keyword applies parts of its declared value and schemas that `disallow` builds around such
parts. -/
theorem applied_cases (h : sub ∈ applied name declared) :
    Json.PartOf sub declared ∨
      name = "disallow" ∧ ∃ disallowed, Json.PartOf disallowed declared ∧ sub = disallowed.typed := by
  unfold applied at h
  split at h
  case h_1 | h_2 => exact .inl (part_of_mem_values h)
  case h_3 => exact .inl (part_of_mem_values (List.mem_filter.mp h).1)
  case h_4 | h_5 | h_6 => exact .inl (part_of_mem_elements h)
  case h_7 | h_8 => exact .inl (part_of_mem_items h)
  case h_9 | h_10 => exact .inl (part_of_mem_singleton (List.mem_filter.mp h).1)
  case h_11 => exact .inl (part_of_mem_singleton h)
  case h_12 => exact .inl (part_of_mem_members (List.mem_filter.mp h).1)
  case h_13 =>
    obtain ⟨disallowed, hmem, rfl⟩ := List.mem_map.mp h
    exact .inr ⟨rfl, disallowed, part_of_mem_members hmem, rfl⟩
  case h_14 => cases h

/-- All schemas that are applied are drawn from the document. -/
theorem drawn_of_applied {document : Json} {members : Json.Members}
    (hdrawn : Json.DrawnFrom (.object members) document) (hmem : (name, declared) ∈ members)
    (happlied : sub ∈ applied name declared) : sub.DrawnFrom document := by
  rcases hdrawn with hpart | ⟨k, hpart, htyped⟩
  · have hdeclared : Json.PartOf declared document := (Json.PartOf.of_mem_members hmem).trans hpart
    rcases applied_cases happlied with hsub | ⟨-, disallowed, hsub, rfl⟩
    · exact .inl (hsub.trans hdeclared)
    · exact .inr ⟨disallowed, hsub.trans hdeclared, rfl⟩
  · -- What `disallow` puts together has a `type` alone, which applies the part that it holds.
    obtain rfl : members = [("type", .array [k])] := Json.object.inj htyped
    cases List.mem_singleton.mp hmem
    have hsub : sub ∈ [k].filter Json.isObject := happlied
    cases List.mem_singleton.mp (List.mem_filter.mp hsub).1
    exact .inl hpart

/-- The ids in an applied schema are ids of the node below its top level. -/
theorem ids_subset_of_applied {members : Json.Members} (hmem : (name, declared) ∈ members)
    (happlied : sub ∈ applied name declared) : sub.ids ⊆ (Json.object members).idsBelow := by
  have hdeclared := Json.ids_subset_of_mem_members hmem
  rcases applied_cases happlied with hpart | ⟨-, disallowed, hpart, rfl⟩
  · exact fun _ hid => hdeclared (hpart.ids_subset hid)
  · exact fun _ hid => hdeclared (hpart.ids_subset (Json.ids_typed disallowed ▸ hid))

/-- Every schema that a node applies has a smaller rank. -/
theorem rank_lt_of_applied {members : Json.Members} (hmem : (name, declared) ∈ members)
    (h : sub ∈ applied name declared) : sub.rank < (Json.object members).rank := by
  have hdeclared : declared.nesting < (Json.object members).nesting := Json.nesting_lt_members hmem
  rcases applied_cases h with hpart | ⟨rfl, disallowed, hpart, rfl⟩
  · exact Json.rank_lt_of_nesting_lt (Nat.lt_of_le_of_lt hpart.nesting_le hdeclared)
  · have hnesting : disallowed.nesting ≤ declared.nesting := hpart.nesting_le
    have hsome : (Json.get? "disallow" (.object members)).isSome := by
      rw [Option.isSome_iff_ne_none]
      intro hnone
      exact Json.Members.find?_eq_none hnone hmem
    rw [Json.rank_typed, Json.rank, if_pos hsome]
    omega

end Keyword

end SchemaCheck
