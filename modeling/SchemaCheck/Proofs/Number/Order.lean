import SchemaCheck.Json.Number
import SchemaCheck.Proofs.Number.Rounding

/-!
The order of the numbers of a document compared with the order of their values. Two integers are
ordered by value, and so are two doubles. An integer and a double are ordered by value too, unless
the double is the one that the integer is rounded to; then they are equal in the order.
-/

namespace SchemaCheck

namespace Integer

theorem nearest_toDouble (n : Integer) : Double.Nearest n.val n.toDouble :=
  Double.nearest_ofInt _ _

theorem toRat_toDouble {n : Integer} (h : n.val.natAbs ≤ 0x20000000000000) :
    n.toDouble.toRat = n.val :=
  Double.toRat_ofInt _ h

theorem toRat_toDouble_neg {n : Integer} (h : n.val < 0) : n.toDouble.toRat ≤ -1 := by
  have hone : (⟨-1, by decide, by decide⟩ : Integer).toDouble.toRat = -1 := by
    rw [toRat_toDouble (by decide)]
    norm_num
  rw [← hone]
  refine n.nearest_toDouble.le_of_le ?_
  rw [hone]
  exact_mod_cast (by omega : n.val ≤ -1)

theorem toRat_toDouble_pos {n : Integer} (h : 0 < n.val) : 1 ≤ n.toDouble.toRat := by
  have hone : (⟨1, by decide, by decide⟩ : Integer).toDouble.toRat = 1 := by
    rw [toRat_toDouble (by decide)]
    norm_num
  rw [← hone]
  refine n.nearest_toDouble.ge_of_ge ?_
  rw [hone]
  exact_mod_cast h

end Integer

namespace Json.Number

/-- The rational value of a number, integer or double. -/
def toRat : Number → ℚ
  | integer n => n.val
  | double x => x.toRat

/-- One number is an integer and the other one is the double that the integer is rounded to. -/
def Rounded : Number → Number → Prop
  | integer n, double x => n.toDouble.toRat = x.toRat
  | double x, integer n => n.toDouble.toRat = x.toRat
  | _, _ => False

section Ranges

variable {m n : Integer}

theorem signed?_eq_some (h : n.val < 0x8000000000000000) : (integer n).signed? = some n.val :=
  if_pos h

theorem signed?_eq_none (h : 0x8000000000000000 ≤ n.val) : (integer n).signed? = none :=
  if_neg (by omega)

theorem unsigned?_eq_some (h : 0 ≤ n.val) : (integer n).unsigned? = some n.val :=
  if_pos h

theorem unsigned?_eq_none (h : n.val < 0) : (integer n).unsigned? = none :=
  if_neg (by omega)

/-- Both integers are in the signed range, or both are in the unsigned range. -/
def Alongside (m n : Integer) : Prop :=
  m.val < 0x8000000000000000 ∧ n.val < 0x8000000000000000 ∨ 0 ≤ m.val ∧ 0 ≤ n.val

/-- If two integers share no range, one of them is negative and the other one is beyond the signed
range. -/
theorem opposite_of_not_alongside (h : ¬ Alongside m n) :
    m.val < 0 ∧ 0x8000000000000000 ≤ n.val ∨ 0x8000000000000000 ≤ m.val ∧ n.val < 0 := by
  unfold Alongside at h
  omega

/-- Two integers that share a range are compared in the signed range, or in the unsigned one if one
of them is beyond the signed range. -/
theorem meet_of_alongside (h : Alongside m n) :
    (integer m).signed? = some m.val ∧ (integer n).signed? = some n.val ∨
      ((integer m).signed? = none ∨ (integer n).signed? = none) ∧
        (integer m).unsigned? = some m.val ∧ (integer n).unsigned? = some n.val := by
  rcases lt_or_ge m.val 0x8000000000000000 with hm | hm
  · rcases lt_or_ge n.val 0x8000000000000000 with hn | hn
    · exact .inl ⟨signed?_eq_some hm, signed?_eq_some hn⟩
    · obtain ⟨hm0, hn0⟩ := h.resolve_left (by omega)
      exact .inr ⟨.inr (signed?_eq_none hn), unsigned?_eq_some hm0, unsigned?_eq_some hn0⟩
  · obtain ⟨hm0, hn0⟩ := h.resolve_left (by omega)
    exact .inr ⟨.inl (signed?_eq_none hm), unsigned?_eq_some hm0, unsigned?_eq_some hn0⟩

end Ranges

/-- No range of integers contains both numbers. -/
def Apart (m n : Number) : Prop :=
  (m.signed? = none ∨ n.signed? = none) ∧ (m.unsigned? = none ∨ n.unsigned? = none)

theorem apart_of_not_alongside {m n : Integer} (h : ¬ Alongside m n) :
    Apart (integer m) (integer n) := by
  rcases opposite_of_not_alongside h with ⟨hm, hn⟩ | ⟨hm, hn⟩
  · exact ⟨.inr (signed?_eq_none hn), .inl (unsigned?_eq_none hm)⟩
  · exact ⟨.inl (signed?_eq_none hm), .inr (unsigned?_eq_none hn)⟩

theorem compare_apart {m n : Number} (h : Apart m n) :
    m.compare n = Ord.compare m.toDouble.toRat n.toDouble.toRat := by
  rw [← Double.compare_eq]
  unfold compare
  obtain ⟨hsigned, hunsigned⟩ := h
  rcases hsigned with hs | hs <;> rcases hunsigned with hu | hu <;> simp [hs, hu]

theorem compare_integers (m n : Integer) :
    (integer m).compare (integer n) = Ord.compare m.val n.val := by
  by_cases h : Alongside m n
  · unfold compare
    rcases meet_of_alongside h with ⟨hm, hn⟩ | ⟨hs, hm, hn⟩
    · rw [hm, hn]
    · rcases hs with hs | hs <;> simp [hs, hm, hn]
  · rw [compare_apart (apart_of_not_alongside h), toDouble, toDouble]
    rcases opposite_of_not_alongside h with ⟨hm, hn⟩ | ⟨hm, hn⟩
    · have hlow := Integer.toRat_toDouble_neg hm
      have hhigh := Integer.toRat_toDouble_pos (by omega : 0 < n.val)
      rw [compare_lt_iff_lt.mpr (by linarith), compare_lt_iff_lt.mpr (by omega)]
    · have hhigh := Integer.toRat_toDouble_pos (by omega : 0 < m.val)
      have hlow := Integer.toRat_toDouble_neg hn
      rw [compare_gt_iff_gt.mpr (by linarith), compare_gt_iff_gt.mpr (by omega)]

/-- Compared with a double, a number counts as the double that it is rounded to. -/
theorem compare_double_left (x : Double) (n : Number) :
    (double x).compare n = Ord.compare x.toRat n.toDouble.toRat :=
  compare_apart ⟨.inl rfl, .inl rfl⟩

theorem compare_double_right (m : Number) (y : Double) :
    m.compare (double y) = Ord.compare m.toDouble.toRat y.toRat :=
  compare_apart ⟨.inr rfl, .inr rfl⟩

/-- If an integer is not rounded to the double `x`, it is on the same side of `x` as its rounded
value. -/
theorem compare_toDouble {n : Integer} {x : Double} (h : n.toDouble.toRat ≠ x.toRat) :
    Ord.compare n.toDouble.toRat x.toRat = Ord.compare (n.val : ℚ) x.toRat := by
  rcases lt_trichotomy (n.val : ℚ) x.toRat with hlt | heq | hgt
  · have hbelow := lt_of_le_of_ne (n.nearest_toDouble.le_of_le hlt.le) h
    rw [compare_lt_iff_lt.mpr hlt, compare_lt_iff_lt.mpr hbelow]
  · exact absurd ((n.nearest_toDouble.eq_of_eq heq.symm).trans heq) h
  · have habove := lt_of_le_of_ne (n.nearest_toDouble.ge_of_ge hgt.le) (Ne.symm h)
    rw [compare_gt_iff_gt.mpr hgt, compare_gt_iff_gt.mpr habove]

/-- The order of two numbers is the order of their values, unless one is an integer and the other
one the double that it is rounded to. -/
theorem compare_of_not_rounded {m n : Number} (h : ¬ Rounded m n) :
    m.compare n = Ord.compare m.toRat n.toRat := by
  match m, n with
  | integer m, integer n =>
      rw [compare_integers, ← cmp_eq_compare, ← cmp_eq_compare]
      exact (Int.cast_strictMono.cmp_map_eq m.val n.val).symm
  | integer m, double y =>
      rw [compare_double_right]
      exact compare_toDouble h
  | double x, integer n =>
      have hflip := compare_toDouble h
      rw [Std.OrientedOrd.eq_swap, Std.OrientedOrd.eq_swap (a := (n.val : ℚ))] at hflip
      rw [compare_double_left]
      exact Ordering.swap_inj.mp hflip
  | double x, double y => exact compare_double_left x (double y)

theorem compare_of_rounded {m n : Number} (h : Rounded m n) : m.compare n = .eq := by
  match m, n with
  | integer m, integer n => cases h
  | integer m, double y =>
      have h : m.toDouble.toRat = y.toRat := h
      rw [compare_double_right]
      exact compare_eq_iff_eq.mpr h
  | double x, integer n =>
      have h : n.toDouble.toRat = x.toRat := h
      rw [compare_double_left]
      exact compare_eq_iff_eq.mpr h.symm
  | double x, double y => cases h

/-- An integer whose double is below `2 ^ 53` in absolute value is equal to that double. -/
theorem toRat_toDouble_of_lt {n : Integer} (h : |n.toDouble.toRat| < 2 ^ 53) :
    n.toDouble.toRat = n.val := by
  have hbound : (⟨0x20000000000000, by decide, by decide⟩ : Integer).toDouble.toRat = 2 ^ 53 := by
    rw [Integer.toRat_toDouble (by decide)]
    norm_num
  have hbound' : (⟨-0x20000000000000, by decide, by decide⟩ : Integer).toDouble.toRat =
      -2 ^ 53 := by
    rw [Integer.toRat_toDouble (by decide)]
    norm_num
  obtain ⟨hlow, hhigh⟩ := abs_lt.mp h
  refine Integer.toRat_toDouble (not_lt.mp fun hlarge => ?_)
  rcases le_or_gt 0 n.val with hpos | hneg
  · have habove := n.nearest_toDouble.ge_of_ge (hbound.le.trans ?_)
    · linarith
    · exact_mod_cast (by omega : (2 : Int) ^ 53 ≤ n.val)
  · have hbelow := n.nearest_toDouble.le_of_le (le_trans ?_ hbound'.ge)
    · linarith
    · exact_mod_cast (by omega : n.val ≤ -(2 : Int) ^ 53)

theorem toRat_eq_of_rounded {m n : Number} (h : Rounded m n) (hsmall : |m.toRat| < 2 ^ 53) :
    m.toRat = n.toRat := by
  match m, n with
  | integer m, integer n => cases h
  | integer m, double y =>
      have h : m.toDouble.toRat = y.toRat := h
      have hsmall : |(m.val : ℚ)| < 2 ^ 53 := hsmall
      have hbits : |m.val| < 2 ^ 53 := by exact_mod_cast hsmall
      rw [Int.abs_eq_natAbs] at hbits
      exact (Integer.toRat_toDouble (by omega)).symm.trans h
  | double x, integer n =>
      have h : n.toDouble.toRat = x.toRat := h
      exact h.symm.trans (toRat_toDouble_of_lt (h ▸ hsmall))
  | double x, double y => cases h

end Json.Number

end SchemaCheck
