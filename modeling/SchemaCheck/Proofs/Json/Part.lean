import SchemaCheck.Json.Pointer

/-!
The parts of a value: the value itself and the parts of its items and members. Properties of a whole
document are stated for all its parts, so that they carry over to every schema and every value that
a walk visits in it.
-/

namespace SchemaCheck.Json

/-- `j` is the value itself or is contained in it. -/
inductive PartOf (j : Json) : Json → Prop
  | whole : PartOf j j
  | item {item : Json} {items : List Json} :
      item ∈ items → PartOf j item → PartOf j (.array items)
  | member {key : String} {value : Json} {members : Members} :
      (key, value) ∈ members → PartOf j value → PartOf j (.object members)

namespace PartOf

variable {i j k : Json} {key : String} {items : List Json} {members : Members}

theorem trans (hij : PartOf i j) (hjk : PartOf j k) : PartOf i k := by
  induction hjk with
  | whole => exact hij
  | item hmem _ ih => exact .item hmem ih
  | member hmem _ ih => exact .member hmem ih

theorem of_mem_items (h : j ∈ items) : PartOf j (.array items) :=
  .item h .whole

theorem of_mem_members (h : (key, j) ∈ members) : PartOf j (.object members) :=
  .member h .whole

end PartOf

namespace Members

variable {key : String} {value : Json} {members : Members}

theorem mem_of_find? (h : find? key members = some value) : (key, value) ∈ members := by
  induction members with
  | nil => cases h
  | cons entry rest ih =>
      obtain ⟨k, v⟩ := entry
      unfold find? at h
      split at h
      next hk =>
        cases h
        subst hk
        exact List.mem_cons_self
      next => exact List.mem_cons_of_mem _ (ih h)

theorem find?_eq_none (h : find? key members = none) : (key, value) ∉ members := by
  induction members with
  | nil => exact List.not_mem_nil
  | cons entry rest ih =>
      obtain ⟨k, v⟩ := entry
      unfold find? at h
      split at h
      next => cases h
      next hk =>
        rintro (_ | hmem)
        · exact hk rfl
        · exact ih h (by assumption)

theorem find?_filter (p : String → Bool) (key : String) (members : Members) :
    find? key (members.filter fun member => p member.1) =
      if p key then find? key members else none := by
  induction members with
  | nil => exact (ite_self none).symm
  | cons entry rest ih =>
      obtain ⟨k, v⟩ := entry
      rw [List.filter_cons, find?]
      by_cases hk : k = key
      · subst hk
        by_cases hp : p k = true
        · simp [hp, find?]
        · simp [hp, ih]
      · rw [if_neg hk]
        split
        next => rw [find?, if_neg hk, ih]
        next => exact ih

theorem find?_erase_of_ne {other : String} (h : key ≠ other) (members : Members) :
    find? key (erase other members) = find? key members := by
  rw [erase, find?_filter (fun k => k ≠ other), if_pos (by simpa using h)]

theorem find?_erase (key : String) (members : Members) : find? key (erase key members) = none := by
  rw [erase, find?_filter (fun k => k ≠ key), if_neg (by simp)]

theorem find?_insert (key : String) (value : Json) (members : Members) :
    find? key (insert key value members) = some value := by
  induction members with
  | nil => rw [insert, find?, if_pos rfl]
  | cons entry rest ih =>
      obtain ⟨k, v⟩ := entry
      rw [insert]
      split
      next => rw [find?, if_pos rfl]
      next =>
        split
        next => rw [find?, if_pos rfl]
        next hne => rw [find?, if_neg (Ne.symm hne), ih]

theorem erase_insert (key : String) (value : Json) (members : Members) :
    erase key (insert key value members) = erase key members := by
  have hdrop (v : Json) (rest : Members) : erase key ((key, v) :: rest) = erase key rest :=
    List.filter_cons_of_neg (by simp)
  induction members with
  | nil => exact hdrop value []
  | cons entry rest ih =>
      obtain ⟨k, v⟩ := entry
      rw [insert]
      split
      next => exact hdrop value _
      next =>
        split
        next heq =>
          subst heq
          rw [hdrop, hdrop]
        next hne =>
          have hkeep (tail : Members) : erase key ((k, v) :: tail) = (k, v) :: erase key tail :=
            List.filter_cons_of_pos (by simpa using Ne.symm hne)
          rw [hkeep, hkeep, ih]

theorem find?_insert_of_ne {other : String} (h : key ≠ other) (value : Json) (members : Members) :
    find? key (insert other value members) = find? key members := by
  rw [← find?_erase_of_ne h, erase_insert, find?_erase_of_ne h]

end Members

theorem get?_without_self (key : String) (j : Json) : (j.without key).get? key = none := by
  cases j with
  | object members => exact Members.find?_erase key members
  | _ => rfl

theorem get?_without_of_ne {key other : String} (h : key ≠ other) (j : Json) :
    (j.without other).get? key = j.get? key := by
  cases j with
  | object members => exact Members.find?_erase_of_ne h members
  | _ => rfl

/-- The target of a pointer is a part. -/
theorem Pointer.part_of_walk? {tokens : List (List Char)} {j target : Json}
    (h : walk? tokens j = some target) : PartOf target j := by
  induction tokens generalizing j with
  | nil =>
      cases h
      exact .whole
  | cons token rest ih =>
      obtain ⟨inner, henter, hrest⟩ := Option.bind_eq_some_iff.mp h
      refine (ih hrest).trans ?_
      unfold enter? at henter
      split at henter
      · exact .of_mem_members (Members.mem_of_find? henter)
      · obtain ⟨i, -, hget⟩ := Option.bind_eq_some_iff.mp henter
        exact .of_mem_items (List.mem_of_getElem? hget)
      · cases henter

mutual

/-- The list of all parts. -/
def parts : Json → List Json
  | array items => array items :: partsOfItems items
  | object members => object members :: partsOfMembers members
  | j => [j]

def partsOfItems : List Json → List Json
  | [] => []
  | j :: rest => parts j ++ partsOfItems rest

def partsOfMembers : List (String × Json) → List Json
  | [] => []
  | (_, j) :: rest => parts j ++ partsOfMembers rest

end

theorem partsOfItems_eq (items : List Json) : partsOfItems items = items.flatMap parts := by
  induction items with
  | nil => rfl
  | cons j rest ih => rw [partsOfItems, ih, List.flatMap_cons]

theorem partsOfMembers_eq (members : Members) :
    partsOfMembers members = members.flatMap fun entry => parts entry.2 := by
  induction members with
  | nil => rfl
  | cons entry rest ih => rw [partsOfMembers, ih, List.flatMap_cons]

theorem mem_parts_self (j : Json) : j ∈ parts j := by
  cases j <;> exact List.mem_cons_self

theorem PartOf.mem_parts {i j : Json} (h : PartOf i j) : i ∈ parts j := by
  induction h with
  | whole => exact mem_parts_self i
  | item hmem _ ih =>
      rw [parts, partsOfItems_eq]
      exact List.mem_cons_of_mem _ (List.mem_flatMap_of_mem hmem ih)
  | member hmem _ ih =>
      rw [parts, partsOfMembers_eq]
      exact List.mem_cons_of_mem _ (List.mem_flatMap_of_mem hmem ih)

/-- Removing the top-level `id` removes no other parts. -/
theorem mem_parts_without {i j : Json} (h : i ∈ parts (j.without "id")) :
    i = j.without "id" ∨ i ∈ parts j := by
  cases j with
  | object members =>
      refine (List.mem_cons.mp h).imp_right fun hbelow => ?_
      rw [partsOfMembers_eq] at hbelow
      obtain ⟨entry, hentry, hinner⟩ := List.mem_flatMap.mp hbelow
      rw [parts, partsOfMembers_eq]
      exact List.mem_cons_of_mem _
        (List.mem_flatMap.mpr ⟨entry, (List.mem_filter.mp hentry).1, hinner⟩)
  | _ => exact .inr h

mutual

/-- The nesting depth of objects. -/
def nesting : Json → Nat
  | array items => nestingItems items
  | object members => nestingMembers members + 1
  | _ => 0

def nestingItems : List Json → Nat
  | [] => 0
  | j :: rest => max (nesting j) (nestingItems rest)

def nestingMembers : List (String × Json) → Nat
  | [] => 0
  | (_, j) :: rest => max (nesting j) (nestingMembers rest)

end

theorem nesting_le_items {j : Json} {items : List Json} (h : j ∈ items) :
    nesting j ≤ nesting (.array items) := by
  simp only [nesting]
  induction items with
  | nil => cases h
  | cons i rest ih =>
      simp only [nestingItems]
      rcases List.mem_cons.mp h with rfl | h
      · exact Nat.le_max_left ..
      · exact Nat.le_trans (ih h) (Nat.le_max_right ..)

theorem nesting_lt_members {key : String} {j : Json} {members : Members}
    (h : (key, j) ∈ members) : nesting j < nesting (.object members) := by
  simp only [nesting, Nat.lt_succ_iff]
  induction members with
  | nil => cases h
  | cons entry rest ih =>
      obtain ⟨k, i⟩ := entry
      simp only [nestingMembers]
      rcases List.mem_cons.mp h with heq | h
      · cases heq
        exact Nat.le_max_left ..
      · exact Nat.le_trans (ih h) (Nat.le_max_right ..)

theorem PartOf.nesting_le {j k : Json} (h : PartOf j k) : nesting j ≤ nesting k := by
  induction h with
  | whole => exact Nat.le_refl _
  | item hmem _ ih => exact Nat.le_trans ih (nesting_le_items hmem)
  | member hmem _ ih => exact Nat.le_trans ih (Nat.le_of_lt (nesting_lt_members hmem))

mutual

/-- The strings contained in a value, without keys. -/
def texts : Json → List String
  | string s => [s]
  | array items => textsOfItems items
  | object members => textsOfMembers members
  | _ => []

def textsOfItems : List Json → List String
  | [] => []
  | j :: rest => texts j ++ textsOfItems rest

def textsOfMembers : List (String × Json) → List String
  | [] => []
  | (_, j) :: rest => texts j ++ textsOfMembers rest

end

theorem textsOfItems_eq (items : List Json) : textsOfItems items = items.flatMap texts := by
  induction items with
  | nil => rfl
  | cons j rest ih => rw [textsOfItems, ih, List.flatMap_cons]

theorem textsOfMembers_eq (members : Members) :
    textsOfMembers members = members.flatMap fun entry => texts entry.2 := by
  induction members with
  | nil => rfl
  | cons entry rest ih => rw [textsOfMembers, ih, List.flatMap_cons]

theorem mem_texts {s : String} {j : Json} (h : PartOf (string s) j) : s ∈ texts j := by
  induction h with
  | whole => exact List.mem_singleton_self s
  | item hmem _ ih =>
      rw [texts, textsOfItems_eq]
      exact List.mem_flatMap_of_mem hmem ih
  | member hmem _ ih =>
      rw [texts, textsOfMembers_eq]
      exact List.mem_flatMap_of_mem hmem ih

mutual

/-- The string values of `id` members in a value. -/
def ids : Json → List String
  | array items => idsOfItems items
  | object members => ((Members.find? "id" members).bind string?).toList ++ idsOfMembers members
  | _ => []

def idsOfItems : List Json → List String
  | [] => []
  | j :: rest => ids j ++ idsOfItems rest

def idsOfMembers : List (String × Json) → List String
  | [] => []
  | (_, j) :: rest => ids j ++ idsOfMembers rest

end

/-- The string values of `id` members below the top level. -/
def idsBelow : Json → List String
  | array items => idsOfItems items
  | object members => idsOfMembers members
  | _ => []

theorem idsOfItems_eq (items : List Json) : idsOfItems items = items.flatMap ids := by
  induction items with
  | nil => rfl
  | cons j rest ih => rw [idsOfItems, ih, List.flatMap_cons]

theorem idsOfMembers_eq (members : Members) :
    idsOfMembers members = members.flatMap fun entry => ids entry.2 := by
  induction members with
  | nil => rfl
  | cons entry rest ih => rw [idsOfMembers, ih, List.flatMap_cons]

theorem idsBelow_subset_ids (j : Json) : j.idsBelow ⊆ ids j := by
  cases j with
  | object members => exact List.subset_append_right ..
  | _ => exact List.Subset.refl _

theorem ids_subset_of_mem_items {j : Json} {items : List Json} (h : j ∈ items) :
    ids j ⊆ (array items).idsBelow := by
  rw [idsBelow, idsOfItems_eq]
  exact fun _ hid => List.mem_flatMap_of_mem h hid

theorem ids_subset_of_mem_members {key : String} {j : Json} {members : Members}
    (h : (key, j) ∈ members) : ids j ⊆ (object members).idsBelow := by
  rw [idsBelow, idsOfMembers_eq]
  exact fun _ hid => List.mem_flatMap_of_mem h hid

theorem PartOf.ids_subset {j k : Json} (h : PartOf j k) : ids j ⊆ ids k := by
  induction h with
  | whole => exact List.Subset.refl _
  | item hmem _ ih =>
      exact fun _ hid => idsBelow_subset_ids _ (ids_subset_of_mem_items hmem (ih hid))
  | member hmem _ ih =>
      exact fun _ hid => idsBelow_subset_ids _ (ids_subset_of_mem_members hmem (ih hid))

theorem mem_ids {id : String} {j : Json} {members : Members} (h : PartOf (object members) j)
    (hid : (Members.find? "id" members).bind string? = some id) : id ∈ ids j := by
  refine h.ids_subset ?_
  rw [ids, hid]
  exact List.mem_cons_self

/-- If a value contains no ids, none of its parts has one. -/
theorem PartOf.nameless {j : Json} {members : Members} (h : PartOf (object members) j)
    (hids : ids j = []) : (Members.find? "id" members).bind string? = none := by
  refine Option.eq_none_iff_forall_not_mem.mpr fun id hid => ?_
  exact List.not_mem_nil (hids ▸ mem_ids h hid)

/-- A nonempty pointer leads below the top level. -/
theorem Pointer.ids_subset_of_walk? {token : List Char} {rest : List (List Char)} {j target : Json}
    (h : walk? (token :: rest) j = some target) : ids target ⊆ j.idsBelow := by
  obtain ⟨inner, henter, hrest⟩ := Option.bind_eq_some_iff.mp h
  refine fun _ hid => ?_
  have hinner := (part_of_walk? hrest).ids_subset hid
  unfold enter? at henter
  split at henter
  · exact ids_subset_of_mem_members (Members.mem_of_find? henter) hinner
  · obtain ⟨i, -, hget⟩ := Option.bind_eq_some_iff.mp henter
    exact ids_subset_of_mem_items (List.mem_of_getElem? hget) hinner
  · cases henter

/-- Without its top-level `id` a value has only the ids below the top level. -/
theorem ids_without_subset (j : Json) : ids (j.without "id") ⊆ j.idsBelow := by
  cases j with
  | object members =>
      intro id hid
      have hbelow : id ∈ idsOfMembers (Members.erase "id" members) := by
        simpa [without, ids, Members.find?_erase] using hid
      rw [idsOfMembers_eq] at hbelow
      obtain ⟨entry, hentry, hinner⟩ := List.mem_flatMap.mp hbelow
      rw [idsBelow, idsOfMembers_eq]
      exact List.mem_flatMap.mpr ⟨entry, (List.mem_filter.mp hentry).1, hinner⟩
  | _ => exact List.Subset.refl _

end SchemaCheck.Json
