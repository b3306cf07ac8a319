import Mathlib.Data.List.Nodup
import Mathlib.Data.List.Perm.Subperm
import SchemaCheck.Proofs.Json.Ordered
import SchemaCheck.Proofs.Number.Order

/-!
Equality of values. Numbers are compared as doubles unless both are integers of one range. The
relation is reflexive and symmetric, and it is transitive through a value unless that contains a
double which is equal to two different integers.
-/

namespace SchemaCheck

theorem Integer.eq_of_val {i j : Integer} (h : i.val = j.val) : i = j := by
  cases i
  cases j
  cases h
  rfl

namespace Json

namespace Number

variable {a b c m n : Number}

/-- Equal numbers have equal doubles. -/
theorem toDouble_of_compare (h : m.compare n = .eq) : m.toDouble.toRat = n.toDouble.toRat := by
  cases n with
  | double y =>
      rw [compare_double_right] at h
      exact compare_eq_iff_eq.mp h
  | integer n =>
      cases m with
      | double x =>
          rw [compare_double_left] at h
          exact compare_eq_iff_eq.mp h
      | integer m =>
          rw [compare_integers] at h
          rw [Integer.eq_of_val (compare_eq_iff_eq.mp h)]

theorem compare_self (n : Number) : n.compare n = .eq := by
  cases n with
  | integer n =>
      rw [compare_integers]
      exact compare_eq_iff_eq.mpr rfl
  | double x =>
      rw [compare_double_left]
      exact compare_eq_iff_eq.mpr rfl

theorem integer_eq_of_compare {i j : Integer} (h : (integer i).compare (integer j) = .eq) :
    i = j := by
  rw [compare_integers] at h
  exact Integer.eq_of_val (compare_eq_iff_eq.mp h)

theorem compare_symm (h : m.compare n = .eq) : n.compare m = .eq := by
  have hdouble := (toDouble_of_compare h).symm
  cases n with
  | double y =>
      rw [compare_double_left]
      exact compare_eq_iff_eq.mpr hdouble
  | integer j =>
      cases m with
      | double x =>
          rw [compare_double_right]
          exact compare_eq_iff_eq.mpr hdouble
      | integer i => exact integer_eq_of_compare h ▸ compare_self _

/-- At most one integer is equal to the number. -/
def Definite (n : Number) : Prop :=
  ∀ i j : Integer, (integer i).compare n = .eq → (integer j).compare n = .eq → i = j

theorem definite_integer (n : Integer) : (integer n).Definite :=
  fun _ _ hi hj => (integer_eq_of_compare hi).trans (integer_eq_of_compare hj).symm

/-- Doubles below `2 ^ 53` are definite. -/
theorem definite_double {x : Double} (h : |x.toRat| < 2 ^ 53) : (double x).Definite := by
  have hval {i : Integer} (hi : (integer i).compare (double x) = .eq) : (i.val : ℚ) = x.toRat := by
    have hdouble : i.toDouble.toRat = x.toRat := toDouble_of_compare hi
    exact (toRat_toDouble_of_lt (hdouble ▸ h)).symm.trans hdouble
  intro i j hi hj
  exact Integer.eq_of_val (by exact_mod_cast (hval hi).trans (hval hj).symm)

theorem compare_trans (hb : b.Definite) (hab : a.compare b = .eq) (hbc : b.compare c = .eq) :
    a.compare c = .eq := by
  have hdouble := (toDouble_of_compare hab).trans (toDouble_of_compare hbc)
  cases c with
  | double y =>
      rw [compare_double_right]
      exact compare_eq_iff_eq.mpr hdouble
  | integer j =>
      cases a with
      | double x =>
          rw [compare_double_left]
          exact compare_eq_iff_eq.mpr hdouble
      | integer i => exact hb i j hab (compare_symm hbc) ▸ compare_self _

end Number

/-- Every number in the value is definite. -/
def Definite (j : Json) : Prop :=
  ∀ n : Number, PartOf (.number n) j → n.Definite

theorem Definite.of_number {n : Number} (h : n.Definite) : Definite (.number n) := by
  intro m hm
  cases hm
  exact h

theorem Definite.of_items {items : List Json} (h : ∀ j ∈ items, Definite j) :
    Definite (.array items) := by
  intro n hn
  cases hn with
  | item hmem hn => exact h _ hmem n hn

theorem Definite.part {j k : Json} (h : Definite k) (hpart : PartOf j k) : Definite j :=
  fun n hn => h n (hn.trans hpart)

/-- Induction over values with membership hypotheses for items and members. -/
theorem whole_induction {P : Json → Prop} (hnull : P .null) (hbool : ∀ b, P (.bool b))
    (hnumber : ∀ n, P (.number n)) (hstring : ∀ s, P (.string s))
    (harray : ∀ items, (∀ j ∈ items, P j) → P (.array items))
    (hobject : ∀ members : Members, (∀ entry ∈ members, P entry.2) → P (.object members))
    (j : Json) : P j :=
  @Json.rec P (fun items => ∀ j ∈ items, P j) (fun members => ∀ entry ∈ members, P entry.2)
    (fun entry => P entry.2) hnull hbool hnumber hstring harray hobject
    (fun _ h => nomatch h) (fun _ _ hj hrest => List.forall_mem_cons.mpr ⟨hj, hrest⟩)
    (fun _ h => nomatch h) (fun _ _ hj hrest => List.forall_mem_cons.mpr ⟨hj, hrest⟩)
    (fun _ _ hj => hj) j

/-- Arrays are equal if and only if they have the same length and equal items at each index. -/
theorem equal_array_iff {as bs : List Json} : (array as).equal (array bs) = true ↔
    as.length = bs.length ∧
      ∀ i (hi : i < as.length) (hj : i < bs.length), as[i].equal bs[i] = true := by
  simp only [equal]
  induction as generalizing bs with
  | nil => cases bs <;> simp [equalItems]
  | cons a as ih =>
      cases bs with
      | nil => simp [equalItems]
      | cons b bs =>
          simp only [equalItems, Bool.and_eq_true, ih, List.length_cons, Nat.add_right_cancel_iff]
          constructor
          · rintro ⟨hfirst, hlength, hrest⟩
            refine ⟨hlength, fun i hi hj => ?_⟩
            cases i with
            | zero => exact hfirst
            | succ i => exact hrest i (Nat.lt_of_succ_lt_succ hi) (Nat.lt_of_succ_lt_succ hj)
          · rintro ⟨hlength, h⟩
            exact ⟨h 0 (Nat.succ_pos _) (Nat.succ_pos _), hlength, fun i hi hj =>
              h (i + 1) (Nat.succ_lt_succ hi) (Nat.succ_lt_succ hj)⟩

theorem equalMembers_iff_find? {as : List (String × Json)} {bs : Members} :
    equalMembers as bs = true ↔
      ∀ entry ∈ as, ∃ b, Members.find? entry.1 bs = some b ∧ entry.2.equal b = true := by
  induction as with
  | nil => simp [equalMembers]
  | cons entry as ih =>
      obtain ⟨key, a⟩ := entry
      simp only [equalMembers, Bool.and_eq_true, List.forall_mem_cons, ih]
      refine and_congr_left fun _ => ?_
      cases Members.find? key bs <;> simp

namespace Members

variable {as bs : Members}

/-- Two ascending lists of the same length have the same keys if the keys of one are among those of
the other. -/
theorem keys_eq (has : Ascending as) (hbs : Ascending bs) (hlength : as.length = bs.length)
    (hsub : keys as ⊆ keys bs) : keys as = keys bs := by
  have hnodup : (keys as).Nodup := has.imp fun hlt => ne_of_lt hlt
  have hperm : (keys as).Perm (keys bs) :=
    (List.subperm_of_subset hnodup hsub).perm_of_length_le (by simp [keys, hlength])
  exact hperm.eq_of_pairwise (fun a b _ _ hab hba => absurd (hab.trans hba) (lt_irrefl _)) has hbs

end Members

/-- Ascending objects are equal if and only if their members agree position by position. -/
theorem equal_object_iff {as bs : Members} (has : Members.Ascending as)
    (hbs : Members.Ascending bs) : (object as).equal (object bs) = true ↔
      as.length = bs.length ∧ ∀ i (hi : i < as.length) (hj : i < bs.length),
        as[i].1 = bs[i].1 ∧ as[i].2.equal bs[i].2 = true := by
  simp only [equal, Bool.and_eq_true, beq_iff_eq, equalMembers_iff_find?]
  refine and_congr_right fun hlength => ⟨fun hfind i hi hj => ?_, fun h entry hentry => ?_⟩
  · have hkeys : Members.keys as = Members.keys bs := by
      refine Members.keys_eq has hbs hlength fun key hkey => ?_
      obtain ⟨entry, hentry, rfl⟩ := List.mem_map.mp hkey
      obtain ⟨b, hb, -⟩ := hfind entry hentry
      exact List.mem_map.mpr ⟨_, Members.mem_of_find? hb, rfl⟩
    have hkey : as[i].1 = bs[i].1 := by
      have hplace := List.getElem_of_eq hkeys (i := i) (by simpa [Members.keys] using hi)
      simpa [Members.keys] using hplace
    obtain ⟨b, hb, hequal⟩ := hfind _ (List.getElem_mem hi)
    have hfound : Members.find? as[i].1 bs = some bs[i].2 :=
      hkey ▸ Members.find?_of_mem hbs (List.getElem_mem hj)
    cases hb.symm.trans hfound
    exact ⟨hkey, hequal⟩
  · obtain ⟨i, hi, rfl⟩ := List.getElem_of_mem hentry
    have hj : i < bs.length := hlength ▸ hi
    obtain ⟨hkey, hequal⟩ := h i hi hj
    exact ⟨bs[i].2, hkey ▸ Members.find?_of_mem hbs (List.getElem_mem hj), hequal⟩

section Equivalence

variable {a b c : Json}

theorem Ordered.item {items : List Json} (h : Ordered (.array items)) {i : Nat}
    (hi : i < items.length) : Ordered items[i] :=
  h.part (.of_mem_items (List.getElem_mem hi))

theorem Ordered.value {members : Members} (h : Ordered (.object members)) {i : Nat}
    (hi : i < members.length) : Ordered members[i].2 :=
  h.part (.of_mem_members (List.getElem_mem hi))

theorem equal_refl (h : a.Ordered) : a.equal a = true := by
  induction a using whole_induction with
  | hnull => rfl
  | hbool b => simp [equal]
  | hnumber n => simp [equal, n.compare_self]
  | hstring s => simp [equal]
  | harray items ih =>
      exact equal_array_iff.mpr ⟨rfl, fun i hi _ => ih _ (List.getElem_mem hi) (h.item hi)⟩
  | hobject members ih =>
      exact (equal_object_iff h.ascending h.ascending).mpr ⟨rfl, fun i hi _ =>
        ⟨rfl, ih _ (List.getElem_mem hi) (h.value hi)⟩⟩

theorem equal_symm (ha : a.Ordered) (hb : b.Ordered) (h : a.equal b = true) :
    b.equal a = true := by
  induction a using whole_induction generalizing b with
  | hnumber m =>
      cases b with
      | number n =>
          simp only [equal, beq_iff_eq] at h ⊢
          exact Number.compare_symm h
      | _ => simp [equal] at h
  | harray as ih =>
      cases b with
      | array bs =>
          obtain ⟨hlength, hitems⟩ := equal_array_iff.mp h
          exact equal_array_iff.mpr ⟨hlength.symm, fun i hj hi =>
            ih _ (List.getElem_mem hi) (ha.item hi) (hb.item hj) (hitems i hi hj)⟩
      | _ => simp [equal] at h
  | hobject as ih =>
      cases b with
      | object bs =>
          obtain ⟨hlength, hmembers⟩ := (equal_object_iff ha.ascending hb.ascending).mp h
          refine (equal_object_iff hb.ascending ha.ascending).mpr ⟨hlength.symm, fun i hj hi => ?_⟩
          obtain ⟨hkey, hequal⟩ := hmembers i hi hj
          exact ⟨hkey.symm, ih _ (List.getElem_mem hi) (ha.value hi) (hb.value hj) hequal⟩
      | _ => simp [equal] at h
  | hnull =>
      cases b with
      | null => exact h
      | _ => simp [equal] at h
  | hbool x =>
      cases b with
      | bool y => exact beq_iff_eq.mpr (eq_of_beq h).symm
      | _ => simp [equal] at h
  | hstring s =>
      cases b with
      | string t => exact beq_iff_eq.mpr (eq_of_beq h).symm
      | _ => simp [equal] at h

theorem equal_comm (ha : a.Ordered) (hb : b.Ordered) : a.equal b = b.equal a :=
  Bool.eq_iff_iff.mpr ⟨equal_symm ha hb, equal_symm hb ha⟩

/-- Equality is transitive through a definite value. -/
theorem equal_trans (ha : a.Ordered) (hb : b.Ordered) (hc : c.Ordered) (hdefinite : b.Definite)
    (hab : a.equal b = true) (hbc : b.equal c = true) : a.equal c = true := by
  induction b using whole_induction generalizing a c with
  | hnumber n =>
      cases a with
      | number m =>
          cases c with
          | number k =>
              simp only [equal, beq_iff_eq] at hab hbc ⊢
              exact Number.compare_trans (hdefinite n .whole) hab hbc
          | _ => simp [equal] at hbc
      | _ => simp [equal] at hab
  | harray bs ih =>
      cases a with
      | array as =>
          cases c with
          | array cs =>
              obtain ⟨hlength, hitems⟩ := equal_array_iff.mp hab
              obtain ⟨hlength', hitems'⟩ := equal_array_iff.mp hbc
              refine equal_array_iff.mpr ⟨hlength.trans hlength', fun i hi hk => ?_⟩
              have hj : i < bs.length := hlength ▸ hi
              have hmem := List.getElem_mem hj
              exact ih _ hmem (ha.item hi) (hb.item hj) (hc.item hk)
                (hdefinite.part (.of_mem_items hmem)) (hitems i hi hj) (hitems' i hj hk)
          | _ => simp [equal] at hbc
      | _ => simp [equal] at hab
  | hobject bs ih =>
      cases a with
      | object as =>
          cases c with
          | object cs =>
              obtain ⟨hlength, hmembers⟩ := (equal_object_iff ha.ascending hb.ascending).mp hab
              obtain ⟨hlength', hmembers'⟩ := (equal_object_iff hb.ascending hc.ascending).mp hbc
              refine (equal_object_iff ha.ascending hc.ascending).mpr
                ⟨hlength.trans hlength', fun i hi hk => ?_⟩
              have hj : i < bs.length := hlength ▸ hi
              have hmem := List.getElem_mem hj
              obtain ⟨hkey, hequal⟩ := hmembers i hi hj
              obtain ⟨hkey', hequal'⟩ := hmembers' i hj hk
              exact ⟨hkey.trans hkey', ih _ hmem (ha.value hi) (hb.value hj) (hc.value hk)
                (hdefinite.part (.of_mem_members hmem)) hequal hequal'⟩
          | _ => simp [equal] at hbc
      | _ => simp [equal] at hab
  | hnull =>
      cases a with
      | null => exact hbc
      | _ => simp [equal] at hab
  | hbool x =>
      cases a with
      | bool y => exact eq_of_beq hab ▸ hbc
      | _ => simp [equal] at hab
  | hstring s =>
      cases a with
      | string t => exact eq_of_beq hab ▸ hbc
      | _ => simp [equal] at hab

end Equivalence

section Indefinite

variable {j k : Json} {items : List Json} {members : Members} {i : Nat}

theorem Ordered.set_item (h : Ordered (.array items)) (hj : Ordered j) :
    Ordered (.array (items.set i j)) := by
  refine .of_items fun item hitem => ?_
  rcases List.mem_or_eq_of_mem_set hitem with hitem | rfl
  · exact h.part (.of_mem_items hitem)
  · exact hj

theorem Ordered.set_value (h : Ordered (.object members)) (hi : i < members.length)
    (hj : Ordered j) : Ordered (.object (members.set i (members[i].1, j))) := by
  have hkeys : Members.keys (members.set i (members[i].1, j)) = Members.keys members := by
    rw [Members.keys, Members.keys, List.map_set, ← List.getElem_map (f := Prod.fst),
      List.set_getElem_self]
    simpa using hi
  refine .of_members ?_ fun key value hmem => ?_
  · rw [Members.Ascending, hkeys]
    exact h.ascending
  · rcases List.mem_or_eq_of_mem_set hmem with hmem | heq
    · exact h.part (.of_mem_members hmem)
    · cases heq
      exact hj

/-- Two arrays that differ at one index are equal if and only if their items there are. -/
theorem equal_set_item (h : Ordered (.array items)) (hi : i < items.length) :
    (array (items.set i j)).equal (array (items.set i k)) = true ↔ j.equal k = true := by
  rw [equal_array_iff]
  constructor
  · rintro ⟨-, hitems⟩
    have hplace := hitems i (by simpa using hi) (by simpa using hi)
    rwa [List.getElem_set_self, List.getElem_set_self] at hplace
  · intro hjk
    refine ⟨by simp, fun m hm _ => ?_⟩
    rw [List.getElem_set, List.getElem_set]
    split
    · exact hjk
    · exact equal_refl (h.item _)

theorem equal_set_value (h : Ordered (.object members)) (hi : i < members.length)
    (hj : Ordered j) (hk : Ordered k) : (object (members.set i (members[i].1, j))).equal
      (object (members.set i (members[i].1, k))) = true ↔ j.equal k = true := by
  rw [equal_object_iff (h.set_value hi hj).ascending (h.set_value hi hk).ascending]
  constructor
  · rintro ⟨-, hmembers⟩
    have hplace := (hmembers i (by simpa using hi) (by simpa using hi)).2
    rwa [List.getElem_set_self, List.getElem_set_self] at hplace
  · intro hjk
    refine ⟨by simp, fun m hm _ => ?_⟩
    rw [List.getElem_set, List.getElem_set]
    split
    · exact ⟨rfl, hjk⟩
    · exact ⟨rfl, equal_refl (h.value _)⟩

/-- Equality is not transitive through a value that contains a number which is not definite. -/
theorem exists_not_trans {n : Number} (hn : ¬ n.Definite) {b : Json} (hpart : PartOf (.number n) b)
    (hb : b.Ordered) : ∃ a c : Json, a.Ordered ∧ c.Ordered ∧ a.equal b = true ∧
      b.equal c = true ∧ ¬ a.equal c = true := by
  induction hpart with
  | whole =>
      simp only [Number.Definite, not_forall] at hn
      obtain ⟨i, j, hi, hj, hne⟩ := hn
      refine ⟨.number (.integer i), .number (.integer j), fun _ h => (nomatch h),
        fun _ h => (nomatch h), beq_iff_eq.mpr hi, beq_iff_eq.mpr (Number.compare_symm hj), ?_⟩
      exact fun h => hne (Number.integer_eq_of_compare (eq_of_beq h))
  | @item inner items hmem _ ih =>
      obtain ⟨i, hi, rfl⟩ := List.getElem_of_mem hmem
      obtain ⟨a, c, ha, hc, hab, hbc, hac⟩ := ih (hb.item hi)
      have hleft := (equal_set_item hb hi).mpr hab
      have hright := (equal_set_item hb hi).mpr hbc
      rw [List.set_getElem_self] at hleft hright
      exact ⟨_, _, hb.set_item ha, hb.set_item hc, hleft, hright,
        mt (equal_set_item hb hi).mp hac⟩
  | @member key value members hmem _ ih =>
      obtain ⟨i, hi, heq⟩ := List.getElem_of_mem hmem
      have hvalue : members[i].2 = value := congrArg Prod.snd heq
      subst hvalue
      obtain ⟨a, c, ha, hc, hab, hbc, hac⟩ := ih (hb.value hi)
      have hleft := (equal_set_value hb hi ha (hb.value hi)).mpr hab
      have hright := (equal_set_value hb hi (hb.value hi) hc).mpr hbc
      rw [List.set_getElem_self] at hleft hright
      exact ⟨_, _, hb.set_value hi ha, hb.set_value hi hc, hleft, hright,
        mt (equal_set_value hb hi ha hc).mp hac⟩

end Indefinite

end Json

end SchemaCheck
