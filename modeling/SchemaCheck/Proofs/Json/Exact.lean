import Mathlib.Data.List.Nodup
import Mathlib.Data.List.Perm.Subperm
import SchemaCheck.Proofs.Json.Ordered

/-!
Values with a unique representation: the keys of their objects ascend, and their numbers are signed
integers of 64 bits. On such values, equality of documents is equality.
-/

namespace SchemaCheck.Json

/-- Every number in the value is a signed integer. -/
def Signed (j : Json) : Prop :=
  ∀ n : Number, PartOf (.number n) j → n.signed?.isSome

/-- The value has a unique representation. -/
structure Exact (j : Json) : Prop where
  ordered : j.Ordered
  signed : j.Signed

namespace Exact

variable {j k : Json} {key : String} {items : List Json} {members : Members}

theorem part (h : Exact k) (hpart : PartOf j k) : Exact j :=
  ⟨h.ordered.part hpart, fun n hn => h.signed n (hn.trans hpart)⟩

theorem item (h : Exact (.array items)) (hmem : j ∈ items) : Exact j :=
  h.part (.of_mem_items hmem)

theorem value (h : Exact (.object members)) (hmem : (key, j) ∈ members) : Exact j :=
  h.part (.of_mem_members hmem)

theorem null : Exact null :=
  ⟨fun _ h => (nomatch h), fun _ h => nomatch h⟩

theorem bool (b : Bool) : Exact (bool b) :=
  ⟨fun _ h => (nomatch h), fun _ h => nomatch h⟩

theorem string (s : String) : Exact (string s) :=
  ⟨fun _ h => (nomatch h), fun _ h => nomatch h⟩

theorem array (h : ∀ j ∈ items, Exact j) : Exact (array items) := by
  refine ⟨.of_items fun j hj => (h j hj).ordered, fun n hn => ?_⟩
  cases hn with
  | item hmem hn => exact (h _ hmem).signed n hn

theorem single (h : Exact j) : Exact (object [(key, j)]) := by
  refine ⟨h.ordered.single, fun n hn => ?_⟩
  cases hn with
  | member hmem hn =>
      cases List.mem_singleton.mp hmem
      exact h.signed n hn

theorem ascending (h : Exact (.object members)) : Members.Ascending members :=
  h.ordered.ascending

/-- Lookup agrees with membership. -/
theorem find?_iff (h : Exact (.object members)) :
    Members.find? key members = some j ↔ (key, j) ∈ members :=
  ⟨Members.mem_of_find?, Members.find?_of_mem h.ascending⟩

theorem integer {n : Number} (h : Exact (.number n)) :
    ∃ m : Integer, n = .integer m ∧ n.signed? = some m.val := by
  have hsome := h.signed n .whole
  cases n with
  | integer m =>
      have hlt : m.val < 0x8000000000000000 := by simpa [Number.signed?] using hsome
      exact ⟨m, rfl, if_pos hlt⟩
  | double x => cases hsome

end Exact

/-- Signed integers are compared by value. -/
theorem Number.compare_signed {m n : Number} {a b : Int} (hm : m.signed? = some a)
    (hn : n.signed? = some b) : m.compare n = Ord.compare a b := by
  unfold Number.compare
  rw [hm, hn]

theorem compare_eq_iff {m n : Number} (hm : Exact (.number m)) (hn : Exact (.number n)) :
    (m.compare n == .eq) = true ↔ m = n := by
  obtain ⟨a, rfl, ha⟩ := hm.integer
  obtain ⟨b, rfl, hb⟩ := hn.integer
  rw [Number.compare_signed ha hb, beq_iff_eq, Int.compare_eq_eq]
  constructor
  · intro h
    cases a
    cases b
    cases h
    rfl
  · intro h
    cases h
    rfl

namespace Members

variable {as bs : Members}

theorem nodup_of_ascending (h : Ascending as) : as.Nodup :=
  List.Nodup.of_map Prod.fst (List.Pairwise.imp (fun hlt => ne_of_lt hlt) h)

/-- An ascending list whose entries are among those of another one of the same length is equal to
it. -/
theorem eq_of_subset (has : Ascending as) (hbs : Ascending bs) (hlength : as.length = bs.length)
    (hsub : as ⊆ bs) : as = bs := by
  have hperm : as.Perm bs :=
    (List.subperm_of_subset (nodup_of_ascending has) hsub).perm_of_length_le hlength.ge
  have hpairwise : as.Pairwise fun a b => a.1 < b.1 := List.pairwise_map.mp has
  refine List.Perm.eq_of_pairwise (fun a b _ _ hab hba => ?_) hpairwise
    (List.pairwise_map.mp hbs) hperm
  exact absurd (hab.trans hba) (lt_irrefl _)

end Members

mutual

theorem equal_iff (a b : Json) (ha : Exact a) (hb : Exact b) : a.equal b = true ↔ a = b := by
  match a, b with
  | .null, b => cases b <;> simp [equal]
  | .bool x, b => cases b <;> simp [equal]
  | .string x, b => cases b <;> simp [equal]
  | .number m, b =>
      cases b with
      | number n => simpa [equal] using compare_eq_iff ha hb
      | _ => simp [equal]
  | .array as, b =>
      cases b with
      | array bs =>
          simpa [equal] using equalItems_iff as bs (fun _ h => ha.item h) fun _ h => hb.item h
      | _ => simp [equal]
  | .object as, b =>
      cases b with
      | object bs =>
          have hmembers := equalMembers_iff as bs ha.value hb.value
          simp only [equal, Bool.and_eq_true, beq_iff_eq, hmembers, object.injEq]
          constructor
          · -- As many members and all of them among the others, both in order: the same list.
            rintro ⟨hlength, hsub⟩
            refine Members.eq_of_subset ha.ascending hb.ascending hlength fun entry hentry => ?_
            exact hb.find?_iff.mp (hsub entry hentry)
          · rintro rfl
            exact ⟨rfl, fun entry hentry => ha.find?_iff.mpr hentry⟩
      | _ => simp [equal]

theorem equalItems_iff (as bs : List Json) (has : ∀ a ∈ as, Exact a) (hbs : ∀ b ∈ bs, Exact b) :
    equalItems as bs = true ↔ as = bs := by
  match as, bs with
  | [], [] => simp [equalItems]
  | [], b :: bs => simp [equalItems]
  | a :: as, [] => simp [equalItems]
  | a :: as, b :: bs =>
      obtain ⟨ha, has⟩ := List.forall_mem_cons.mp has
      obtain ⟨hb, hbs⟩ := List.forall_mem_cons.mp hbs
      simp only [equalItems, Bool.and_eq_true, List.cons.injEq]
      rw [equal_iff a b ha hb, equalItems_iff as bs has hbs]

theorem equalMembers_iff (as : List (String × Json)) (bs : Members)
    (has : ∀ {key a}, (key, a) ∈ as → Exact a) (hbs : ∀ {key b}, (key, b) ∈ bs → Exact b) :
    equalMembers as bs = true ↔ ∀ entry ∈ as, Members.find? entry.1 bs = some entry.2 := by
  match as with
  | [] => simp [equalMembers]
  | (key, a) :: as =>
      have hrest := equalMembers_iff as bs (fun h => has (.tail _ h)) hbs
      simp only [equalMembers, Bool.and_eq_true, List.forall_mem_cons, hrest]
      refine and_congr_left fun _ => ?_
      cases hfind : Members.find? key bs with
      | none => simp
      | some b =>
          have hexact := hbs (Members.mem_of_find? hfind)
          simp only [equal_iff a b (has List.mem_cons_self) hexact, Option.some.injEq]
          exact eq_comm

end

end SchemaCheck.Json
