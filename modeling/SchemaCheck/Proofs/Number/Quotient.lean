import Mathlib.Data.Int.GCD
import SchemaCheck.Proofs.Number.Order

/-!
The rounded quotient of two doubles as a test of divisibility. The test is exact for two integers
that are doubles if their quotient in lowest terms has a numerator of at most 53 bits. It is also
exact if the divisor is the greater of the two doubles, since no quotient below one is rounded to
one.
-/

namespace SchemaCheck

namespace Double

variable {x y q : Double} {f : ℚ}

theorem isInteger_iff (x : Double) : x.isInteger = true ↔ ∃ k : Int, x.toRat = k := by
  have hden : (x.den : ℚ) ≠ 0 := mod_cast x.den_pos.ne'
  have hdvd : x.isInteger = true ↔ (x.den : Int) ∣ x.signedNum := by
    rw [isInteger, beq_iff_eq, ← Nat.dvd_iff_mod_eq_zero, signedNum, ← Int.natCast_dvd_natCast]
    split
    · exact Int.dvd_neg.symm
    · exact Iff.rfl
  rw [hdvd]
  constructor
  · rintro ⟨k, hk⟩
    refine ⟨k, ?_⟩
    rw [toRat, hk, Int.cast_mul, Int.cast_natCast, mul_div_cancel_left₀ _ hden]
  · rintro ⟨k, hk⟩
    refine ⟨k, ?_⟩
    rw [toRat, div_eq_iff hden] at hk
    rw [mul_comm]
    exact_mod_cast hk

theorem isZero_iff (x : Double) : x.isZero = true ↔ x.toRat = 0 := by
  rw [isZero, beq_iff_eq, ← abs_eq_zero, abs_toRat, mul_eq_zero, Nat.cast_eq_zero]
  exact (or_iff_left (unit_pos _).ne').symm

theorem abs_toRat_eq (x : Double) : |x.toRat| = x.num / x.den :=
  (abs_toRat x).trans (num_div_den x).symm

theorem toRat_eq_sign (x : Double) : x.toRat = sign x.negative * (x.num / x.den) :=
  (toRat_eq x).trans (congrArg _ (num_div_den x).symm)

theorem toRat_neg (x : Double) : x.neg.toRat = -x.toRat := by
  rw [toRat_eq, toRat_eq, neg]
  cases x.negative <;> simp

/-- The fraction that is rounded for the quotient of two doubles. -/
theorem sign_mul_quotient (x y : Double) : sign (x.negative != y.negative) *
    ((x.num * y.den : Nat) / (x.den * y.num : Nat)) = x.toRat / y.toRat := by
  have hsign : sign (x.negative != y.negative) = sign x.negative / sign y.negative := by
    cases x.negative <;> cases y.negative <;> simp [sign]
  rw [toRat_eq_sign, toRat_eq_sign, hsign, Nat.cast_mul, Nat.cast_mul, mul_div_mul_comm,
    ← inv_div (y.num : ℚ), ← div_eq_mul_inv, mul_div_mul_comm]

/-- The quotient by a nonzero double is rounded to a nearest double. If the quotient is at least
`unit (-1022)`, the error is less than `1 / 2 ^ 53` of it. -/
theorem exists_div? (hy : y.toRat ≠ 0) (hsize : |x.toRat / y.toRat| < unit 1023) :
    ∃ q, x.div? y = some q ∧ Nearest (x.toRat / y.toRat) q ∧
      (unit (-1022) ≤ |x.toRat / y.toRat| →
        |x.toRat / y.toRat - q.toRat| < |x.toRat / y.toRat| * unit (-53)) := by
  have hden : x.den * y.num ≠ 0 := by
    refine Nat.mul_ne_zero x.den_pos.ne' fun hzero => hy (abs_eq_zero.mp ?_)
    rw [abs_toRat_eq, hzero, Nat.cast_zero, zero_div]
  have hquotient : ((x.num * y.den : Nat) / (x.den * y.num : Nat) : ℚ) = |x.toRat / y.toRat| := by
    rw [← sign_mul_quotient, abs_mul, abs_sign, one_mul, abs_of_nonneg]
    exact div_nonneg (Nat.cast_nonneg _) (Nat.cast_nonneg _)
  obtain ⟨q, hq⟩ := Option.isSome_iff_exists.mp
    (isSome_ofRatio? (x.negative != y.negative) hden (hquotient.trans_lt hsize))
  refine ⟨q, ?_, ?_, fun hnormal => ?_⟩
  · rw [div?, if_neg (mt (isZero_iff y).mp hy), hq]
  · rw [← sign_mul_quotient]
    exact nearest_of_ofRatio? hden hq
  · have herror := abs_sub_toRat_lt hden hq (hnormal.trans_eq hquotient.symm)
    rwa [sign_mul_quotient, hquotient] at herror

namespace Nearest

/-- Rounding keeps a number below a double in absolute value. -/
theorem abs_toRat_le (h : Nearest f q) (hle : |f| ≤ y.toRat) : |q.toRat| ≤ y.toRat := by
  obtain ⟨hlow, hhigh⟩ := abs_le.mp hle
  have hbelow := h.ge_of_ge (y := y.neg) ((toRat_neg y).trans_le hlow)
  rw [toRat_neg] at hbelow
  exact abs_le.mpr ⟨hbelow, h.le_of_le hhigh⟩

end Nearest

/-- The greatest double below one. -/
def belowOne : Double :=
  ⟨false, 0x1fffffffffffff, -53, by decide⟩

theorem toRat_belowOne : belowOne.toRat = 1 - unit (-53) := by
  rw [toRat_eq]
  norm_num [belowOne, unit]

/-- The ratio of a double to a greater one is at most the greatest double below one. -/
theorem abs_le_mul_belowOne (hlt : |x.toRat| < |y.toRat|) (hy : 1 ≤ |y.toRat|) :
    |x.toRat| ≤ |y.toRat| * (1 - unit (-53)) := by
  have hunit := unit_pos y.exponent
  have hstep : unit (-53) = 1 / 0x20000000000000 := by norm_num [unit]
  have hhigh : (y.mantissa : ℚ) < 0x20000000000000 := by exact_mod_cast y.canonical.1
  have hlow : (0x10000000000000 : ℚ) ≤ y.mantissa := by
    rcases y.canonical.2.2.2 with hnormal | hleast
    · exact_mod_cast hnormal
    · have htiny : unit y.exponent ≤ unit (-53) := unit_le_unit (by omega)
      have hsmall : y.mantissa * unit y.exponent < 1 := by
        calc y.mantissa * unit y.exponent
          _ ≤ y.mantissa * unit (-53) := mul_le_mul_of_nonneg_left htiny (Nat.cast_nonneg _)
          _ < 0x20000000000000 * unit (-53) := mul_lt_mul_of_pos_right hhigh (unit_pos _)
          _ = 1 := by norm_num [unit]
      rw [abs_toRat] at hy
      exact absurd hy hsmall.not_ge
  rw [abs_toRat y] at hlt ⊢
  rw [hstep]
  rcases le_or_gt y.exponent x.exponent with hle | hgt
  · -- The lesser mantissa is less by one, and the greater one is of 53 bits.
    obtain ⟨k, hk⟩ := whole_of_le_exponent x false hle
    have habs : |x.toRat| = ((|k| : Int) : ℚ) * unit y.exponent := by
      have hsize := congrArg abs hk
      rwa [abs_mul, abs_sign, one_mul, abs_mul, abs_of_pos hunit, ← Int.cast_abs] at hsize
    rw [habs] at hlt ⊢
    have hless : |k| < (y.mantissa : Int) := by
      exact_mod_cast lt_of_mul_lt_mul_right hlt hunit.le
    have hless : ((|k| : Int) : ℚ) ≤ y.mantissa - 1 := by exact_mod_cast Int.le_sub_one_of_lt hless
    rw [mul_right_comm]
    refine mul_le_mul_of_nonneg_right ?_ hunit.le
    linarith
  · -- At a lower exponent the greatest mantissa falls short by half a unit.
    have hhalf : unit x.exponent ≤ unit y.exponent * (1 / 2) := by
      have hone : unit (y.exponent - 1) = unit y.exponent * (1 / 2) := by
        rw [sub_eq_add_neg, unit_add]
        norm_num [unit]
      exact (unit_le_unit (by omega)).trans_eq hone
    have hmantissa : (x.mantissa : ℚ) ≤ 0x1fffffffffffff := by
      exact_mod_cast Nat.le_of_lt_succ x.canonical.1
    calc |x.toRat| = x.mantissa * unit x.exponent := abs_toRat x
      _ ≤ 0x1fffffffffffff * (unit y.exponent * (1 / 2)) :=
        mul_le_mul hmantissa hhalf (unit_pos _).le (by norm_num)
      _ = 0x10000000000000 * unit y.exponent * (1 - 1 / 0x20000000000000) := by ring
      _ ≤ y.mantissa * unit y.exponent * (1 - 1 / 0x20000000000000) :=
        mul_le_mul_of_nonneg_right (mul_le_mul_of_nonneg_right hlow hunit.le) (by norm_num)

/-- The rounded quotient by a greater double is no integer. -/
theorem not_isInteger_of_lt (hlt : |x.toRat| < |y.toRat|) (hy : 1 ≤ |y.toRat|)
    (hnormal : unit (-1022) ≤ |x.toRat / y.toRat|) {q : Double} (hq : x.div? y = some q) :
    q.isInteger = false := by
  have hpos : 0 < |y.toRat| := zero_lt_one.trans_le hy
  have hbelow : |x.toRat / y.toRat| ≤ belowOne.toRat := by
    rw [toRat_belowOne, abs_div, div_le_iff₀ hpos, mul_comm]
    exact abs_le_mul_belowOne hlt hy
  have hone : belowOne.toRat < 1 := by
    rw [toRat_belowOne]
    linarith [unit_pos (-53)]
  have hsize : |x.toRat / y.toRat| < unit 1023 := by
    refine (hbelow.trans_lt hone).trans_le ?_
    exact one_le_zpow₀ one_le_two (by norm_num)
  obtain ⟨r, hr, hnearest, herror⟩ := exists_div? (abs_pos.mp hpos) hsize
  cases hq.symm.trans hr
  refine Bool.eq_false_iff.mpr fun hinteger => ?_
  obtain ⟨k, hk⟩ := (isInteger_iff q).mp hinteger
  have hsmall := (hnearest.abs_toRat_le hbelow).trans_lt hone
  have hzero : k = 0 := by
    rw [hk] at hsmall
    exact Int.abs_lt_one_iff.mp (by exact_mod_cast hsmall)
  -- A nonzero quotient is not rounded to zero.
  have herror := herror hnormal
  rw [hk, hzero, Int.cast_zero, sub_zero] at herror
  have hunit : unit (-53) ≤ 1 := zpow_le_one_of_nonpos₀ one_le_two (by norm_num)
  exact (mul_le_of_le_one_right (abs_nonneg _) hunit).not_gt herror

/-- Quotients of numbers in the range of machine integers are above the least exponents. -/
theorem unit_le_abs_div {a b : ℚ} (ha : 1 ≤ |a|) (hb : 0 < |b|) (hbound : |b| ≤ unit 65) :
    unit (-1022) ≤ |a / b| := by
  rw [abs_div, le_div_iff₀ hb]
  calc unit (-1022) * |b|
    _ ≤ unit (-1022) * unit 65 := mul_le_mul_of_nonneg_left hbound (unit_pos _).le
    _ = unit (-957) := (unit_add _ _).symm
    _ ≤ 1 := zpow_le_one_of_nonpos₀ one_le_two (by norm_num)
    _ ≤ |a| := ha

/-- If the quotient of two integers in lowest terms has a numerator of at most 53 bits, the rounded
quotient is an integer iff the divisor divides the dividend. -/
theorem exists_div?_iff_dvd {n d : Int} (hx : x.toRat = n) (hy : y.toRat = d) (hd : d ≠ 0)
    (hd65 : |(d : ℚ)| ≤ unit 65) (hbits : n.natAbs ≤ 0x20000000000000 * Int.gcd n d) :
    ∃ q, x.div? y = some q ∧ (q.isInteger = true ↔ d ∣ n) := by
  have hgcd : (Int.gcd n d : ℚ) ≤ |(d : ℚ)| := by
    have hle : (Int.gcd n d : Int) ≤ |d| := by
      rw [Int.abs_eq_natAbs]
      exact_mod_cast Int.gcd_le_natAbs_right n hd
    exact_mod_cast hle
  have hn : |(n : ℚ)| ≤ 0x20000000000000 * Int.gcd n d := by
    have hle : |n| ≤ 0x20000000000000 * Int.gcd n d := by
      rw [Int.abs_eq_natAbs]
      exact_mod_cast hbits
    exact_mod_cast hle
  have hpos : (0 : ℚ) < |(d : ℚ)| := abs_pos.mpr (mod_cast hd)
  have hquotient : |(n / d : ℚ)| ≤ 0x20000000000000 := by
    rw [abs_div, div_le_iff₀ hpos]
    linarith
  have hlarge : (0x20000000000000 : ℚ) < unit 1023 := by
    have hunit : (0x20000000000000 : ℚ) = unit 53 := by norm_num [unit]
    rw [hunit]
    exact zpow_lt_zpow_right₀ one_lt_two (by norm_num)
  have hdivisor : y.toRat ≠ 0 := by
    rw [hy]
    exact_mod_cast hd
  obtain ⟨q, hq, hnearest, herror⟩ := exists_div? (x := x) hdivisor
    (by rw [hx, hy]; exact hquotient.trans_lt hlarge)
  rw [hx, hy] at hnearest herror
  refine ⟨q, hq, fun hinteger => ?_, ?_⟩
  · by_contra hnot
    obtain ⟨k, hk⟩ := (isInteger_iff q).mp hinteger
    have hzero : n ≠ 0 := fun hzero => hnot (hzero ▸ dvd_zero d)
    have hone : (1 : ℚ) ≤ |(n : ℚ)| := by exact_mod_cast Int.one_le_abs hzero
    have hnormal := unit_le_abs_div hone hpos hd65
    -- The remainder is a multiple of the common divisor and smaller than it.
    have hrest : (Int.gcd n d : ℚ) ≤ |(n - k * d : ℚ)| := by
      have hdvd : (Int.gcd n d : Int) ∣ |n - k * d| :=
        (dvd_abs _ _).mpr (dvd_sub (Int.gcd_dvd_left ..) ((Int.gcd_dvd_right ..).mul_left k))
      have hrest : n - k * d ≠ 0 := fun hrest => hnot ⟨k, by linarith⟩
      exact_mod_cast Int.le_of_dvd (abs_pos.mpr hrest) hdvd
    refine hrest.not_gt ?_
    calc |(n - k * d : ℚ)|
      _ = |(n / d - k : ℚ)| * |(d : ℚ)| := by
        rw [← abs_mul, sub_mul, div_mul_cancel₀ _ (abs_pos.mp hpos)]
      _ < |(n / d : ℚ)| * unit (-53) * |(d : ℚ)| :=
        mul_lt_mul_of_pos_right (hk ▸ herror hnormal) hpos
      _ = |(n : ℚ)| * unit (-53) := by
        rw [abs_div, mul_right_comm, div_mul_cancel₀ _ hpos.ne']
      _ ≤ 0x20000000000000 * Int.gcd n d * unit (-53) :=
        mul_le_mul_of_nonneg_right hn (unit_pos _).le
      _ = Int.gcd n d := by
        rw [mul_right_comm]
        norm_num [unit]
  · rintro ⟨k, rfl⟩
    rw [Int.cast_mul, mul_div_cancel_left₀ _ (abs_pos.mp hpos)] at hnearest hquotient
    have hk : k.natAbs ≤ 0x20000000000000 := by
      have hle : |k| ≤ 0x20000000000000 := by exact_mod_cast hquotient
      rw [Int.abs_eq_natAbs] at hle
      omega
    have hdouble := toRat_ofInt (by omega) hk
    exact (isInteger_iff q).mpr ⟨k, hnearest.eq_of_eq hdouble⟩

end Double

namespace Integer

theorem one_le_abs_toDouble {n : Integer} (h : n.val ≠ 0) : 1 ≤ |n.toDouble.toRat| := by
  rcases lt_or_gt_of_ne h with hneg | hpos
  · have hle := toRat_toDouble_neg hneg
    exact le_abs.mpr (.inr (by linarith))
  · exact le_abs.mpr (.inl (toRat_toDouble_pos hpos))

theorem abs_le_unit (n : Integer) : |(n.val : ℚ)| ≤ Double.unit 64 := by
  have hle : |n.val| ≤ 0x10000000000000000 := by
    have hlower := n.lower
    have hupper := n.upper
    rw [Int.abs_eq_natAbs]
    omega
  have hunit : Double.unit 64 = ((0x10000000000000000 : Int) : ℚ) := by norm_num [Double.unit]
  rw [hunit]
  exact_mod_cast hle

theorem abs_toDouble_le_unit (n : Integer) : |n.toDouble.toRat| ≤ Double.unit 64 := by
  have hdouble : (⟨false, 0x10000000000000, 12, by decide⟩ : Double).toRat = Double.unit 64 := by
    rw [Double.toRat_eq]
    norm_num [Double.unit]
  rw [← hdouble]
  exact n.nearest_toDouble.abs_toRat_le (hdouble.symm ▸ n.abs_le_unit)

end Integer

end SchemaCheck
