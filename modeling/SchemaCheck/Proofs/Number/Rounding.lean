import SchemaCheck.Proofs.Number.Value

/-!
Rounding a fraction to a double. The exponent of a fraction is chosen such that its mantissa has 53
bits, or it is the least exponent; the fraction is then rounded to a whole mantissa. No double is
nearer to the fraction than the result, since every other double is a multiple of the same unit or
is smaller than all numbers with 53 bits at that exponent.
-/

namespace SchemaCheck.Double

section Whole

variable {a b : Nat}

theorem abs_sub_roundDiv_le (hb : 0 < b) : |(a / b : ℚ) - roundDiv a b| ≤ 1 / 2 := by
  have hpos : (0 : ℚ) < b := mod_cast hb
  have hsplit : (a : ℚ) = b * (a / b : Nat) + (a % b : Nat) := mod_cast (Nat.div_add_mod a b).symm
  have hrest : (a / b : ℚ) - (a / b : Nat) = (a % b : Nat) / b := by
    rw [eq_div_iff hpos.ne', sub_mul, div_mul_cancel₀ _ hpos.ne']
    linarith
  have hlt : ((a % b : Nat) : ℚ) < b := mod_cast Nat.mod_lt a hb
  rw [abs_le]
  unfold roundDiv
  dsimp only
  split
  next hlow =>
    have hlow : (2 * (a % b : Nat) : ℚ) < b := mod_cast hlow
    rw [hrest, div_le_div_iff₀ hpos two_pos]
    exact ⟨by linarith [div_nonneg (a % b).cast_nonneg hpos.le], by linarith⟩
  · split
    next hhigh =>
      have hhigh : (b : ℚ) < 2 * (a % b : Nat) := mod_cast hhigh
      have hbelow : (1 / 2 : ℚ) ≤ (a % b : Nat) / b := by
        rw [div_le_div_iff₀ two_pos hpos]
        linarith
      have habove : ((a % b : Nat) / b : ℚ) ≤ 1 := (div_le_one hpos).mpr hlt.le
      push_cast
      exact ⟨by linarith, by linarith⟩
    next hlow hhigh =>
      have htie : (2 * (a % b : Nat) : ℚ) = b := by
        have : 2 * (a % b) = b := by omega
        exact_mod_cast this
      have hmid : ((a % b : Nat) / b : ℚ) = 1 / 2 := by
        rw [div_eq_div_iff hpos.ne' two_ne_zero]
        linarith
      have hbit : ((a / b % 2 : Nat) : ℚ) ≤ 1 := mod_cast (by omega : a / b % 2 ≤ 1)
      have hbit' : (0 : ℚ) ≤ (a / b % 2 : Nat) := Nat.cast_nonneg _
      push_cast at hbit hbit' ⊢
      exact ⟨by linarith, by linarith⟩

/-- No integer is nearer to the fraction than the rounded one. -/
theorem abs_sub_roundDiv_le_abs_sub (hb : 0 < b) (k : Int) :
    |(a / b : ℚ) - roundDiv a b| ≤ |(a / b : ℚ) - k| := by
  have hhalf := abs_sub_roundDiv_le (a := a) hb
  by_cases hk : (roundDiv a b : Int) = k
  · rw [← hk, Int.cast_natCast]
  · have hone : (1 : ℚ) ≤ |(roundDiv a b : ℚ) - k| := by
      have : (1 : Int) ≤ |(roundDiv a b : Int) - k| :=
        Int.one_le_abs (sub_ne_zero.mpr hk)
      exact_mod_cast this
    have htriangle := abs_sub_le (roundDiv a b : ℚ) (a / b) k
    rw [abs_sub_comm (roundDiv a b : ℚ) (a / b)] at htriangle
    linarith

end Whole

section Scale

variable {num den : Nat}

theorem scale_pos (hden : 0 < den) (e : Int) : 0 < (scale num den e).2 := by
  cases e with
  | ofNat k => exact Nat.mul_pos hden (Nat.two_pow_pos k)
  | negSucc k => exact hden

theorem scale_eq (num den : Nat) (e : Int) :
    ((scale num den e).1 / (scale num den e).2 : ℚ) = num / den / unit e := by
  cases e with
  | ofNat k =>
      have hunit : unit (Int.ofNat k) = 2 ^ k := unit_natCast k
      rw [hunit, scale, div_div]
      push_cast [Nat.pow_eq]
      rfl
  | negSucc k =>
      have hunit : unit (Int.negSucc k) = (2 ^ (k + 1))⁻¹ := zpow_negSucc 2 k
      rw [hunit, scale, div_inv_eq_mul, div_mul_eq_mul_div]
      push_cast [Nat.pow_eq]
      rfl

theorem unit_log_le (h : num ≠ 0) : unit num.log2 ≤ num := by
  rw [unit_natCast]
  exact_mod_cast Nat.log2_self_le h

theorem lt_unit_log (num : Nat) : (num : ℚ) < unit (num.log2 + 1) := by
  have hunit : unit (num.log2 + 1) = 2 ^ (num.log2 + 1) := unit_natCast (num.log2 + 1)
  rw [hunit]
  exact_mod_cast Nat.lt_log2_self

theorem least_le_exponentOf (num den : Nat) : -1074 ≤ exponentOf num den := by
  unfold exponentOf
  dsimp only
  split <;> omega

theorem scale_div_lt (hden : den ≠ 0) (e : Int) (n : Nat) :
    (scale num den e).1 / (scale num den e).2 < 2 ^ n ↔ (num / den : ℚ) < unit (e + n) := by
  have hscale : 0 < (scale num den e).2 := scale_pos (Nat.pos_of_ne_zero hden) e
  have hunit : unit (e + n) = (2 ^ n : Nat) * unit e := by
    rw [unit_add, mul_comm, unit_natCast, Nat.cast_pow, Nat.cast_ofNat]
  rw [Nat.div_lt_iff_lt_mul hscale, hunit, ← div_lt_iff₀ (unit_pos e), ← scale_eq,
    div_lt_iff₀ (mod_cast hscale)]
  norm_cast

theorem scale_div_lt_normal (hden : den ≠ 0) (e : Int) :
    (scale num den e).1 / (scale num den e).2 < 0x10000000000000 ↔
      (num / den : ℚ) < unit (e + 52) :=
  scale_div_lt hden e 52

/-- At its exponent a fraction has at most 53 bits before the point. It has exactly 53, unless the
exponent is the least one. -/
theorem exponentOf_bounds (hnum : num ≠ 0) (hden : den ≠ 0) :
    (num / den : ℚ) < unit (exponentOf num den + 53) ∧
      (unit (exponentOf num den + 52) ≤ num / den ∨ exponentOf num den = -1074) := by
  have hpos : (0 : ℚ) < den := mod_cast Nat.pos_of_ne_zero hden
  have hupper : (num / den : ℚ) < unit (num.log2 - den.log2 + 1) := by
    have hsum : unit (num.log2 - den.log2 + 1) * unit den.log2 = unit (num.log2 + 1) := by
      rw [← unit_add]
      congr 1
      omega
    rw [div_lt_iff₀ hpos]
    calc (num : ℚ) < unit (num.log2 + 1) := lt_unit_log num
      _ = unit (num.log2 - den.log2 + 1) * unit den.log2 := hsum.symm
      _ ≤ unit (num.log2 - den.log2 + 1) * den :=
        mul_le_mul_of_nonneg_left (unit_log_le hden) (unit_pos _).le
  have hlower : unit (num.log2 - den.log2 - 1) ≤ num / den := by
    have hsum : unit (num.log2 - den.log2 - 1) * unit (den.log2 + 1) = unit num.log2 := by
      rw [← unit_add]
      congr 1
      omega
    rw [le_div_iff₀ hpos]
    calc unit (num.log2 - den.log2 - 1) * den
      _ ≤ unit (num.log2 - den.log2 - 1) * unit (den.log2 + 1) :=
        mul_le_mul_of_nonneg_left (lt_unit_log den).le (unit_pos _).le
      _ = unit num.log2 := hsum
      _ ≤ num := unit_log_le hnum
  unfold exponentOf
  dsimp only
  generalize hg : max ((num.log2 : Int) - den.log2 - 52) (-1074) = g
  split
  next hsmall =>
    have hsmall := (scale_div_lt_normal hden g).mp hsmall
    refine ⟨hsmall.trans_le (unit_le_unit (by omega)), ?_⟩
    by_cases hleast : max (g - 1) (-1074) = -1074
    · exact .inr hleast
    · exact .inl ((unit_le_unit (by omega)).trans hlower)
  next hlarge =>
    have hlarge := not_lt.mp (mt (scale_div_lt_normal hden g).mpr hlarge)
    exact ⟨hupper.trans_le (unit_le_unit (by omega)), .inl hlarge⟩

end Scale

/-- The factor of a sign. -/
def sign (negative : Bool) : ℚ :=
  if negative then -1 else 1

theorem sign_mul_self (negative : Bool) : sign negative * sign negative = 1 := by
  cases negative <;> simp [sign]

theorem abs_sign (negative : Bool) : |sign negative| = 1 := by
  cases negative <;> simp [sign]

theorem abs_sign_mul_sub (negative : Bool) (a b : ℚ) :
    |sign negative * a - b| = |a - sign negative * b| := by
  have hfactor : sign negative * a - b = sign negative * (a - sign negative * b) := by
    rw [mul_sub, ← mul_assoc, sign_mul_self, one_mul]
  rw [hfactor, abs_mul, abs_sign, one_mul]

/-- A double is an integral multiple of the unit of any lower exponent. -/
theorem whole_of_le_exponent (y : Double) (negative : Bool) {e : Int} (h : e ≤ y.exponent) :
    ∃ k : Int, sign negative * y.toRat = k * unit e := by
  have hunit : unit y.exponent = ((2 ^ (y.exponent - e).toNat : Nat) : ℚ) * unit e := by
    have hsum : y.exponent = ((y.exponent - e).toNat : Int) + e := by omega
    conv_lhs => rw [hsum, unit_add, unit_natCast]
    push_cast
    rfl
  have hsize : y.mantissa * unit y.exponent =
      ((y.mantissa * 2 ^ (y.exponent - e).toNat : Nat) : ℚ) * unit e := by
    rw [hunit, Nat.cast_mul, mul_assoc]
  rw [toRat_eq, hsize, ← mul_assoc, ← mul_assoc]
  refine ⟨(if negative then -1 else 1) * (if y.negative then -1 else 1) *
    (y.mantissa * 2 ^ (y.exponent - e).toNat : Nat), ?_⟩
  congr 1
  unfold sign
  push_cast
  rfl

/-- A double is smaller than all numbers with 53 bits at a higher exponent. -/
theorem abs_toRat_lt (y : Double) {e : Int} (h : y.exponent < e) : |y.toRat| < unit (e + 52) := by
  have hmantissa : (y.mantissa : ℚ) < (0x20000000000000 : Nat) := mod_cast y.canonical.1
  have hunit : ((0x20000000000000 : Nat) : ℚ) * unit y.exponent = unit (y.exponent + 53) := by
    rw [unit_add, mul_comm]
    congr 1
  calc |y.toRat| = y.mantissa * unit y.exponent := abs_toRat y
    _ < (0x20000000000000 : Nat) * unit y.exponent :=
      mul_lt_mul_of_pos_right hmantissa (unit_pos _)
    _ = unit (y.exponent + 53) := hunit
    _ ≤ unit (e + 52) := unit_le_unit (by omega)

theorem unit_add_mantissa (e : Int) :
    unit (e + 52) = ((0x10000000000000 : Int) : ℚ) * unit e := by
  rw [unit_add, mul_comm]
  congr 1

theorem abs_sub_mul_unit (f k : ℚ) (e : Int) : |f - k * unit e| = |f / unit e - k| * unit e := by
  have hunit := unit_pos e
  rw [← abs_of_pos hunit, ← abs_mul, sub_mul, abs_of_pos hunit, div_mul_cancel₀ _ hunit.ne']

theorem toRat_of_ofParts? {negative : Bool} {m : Nat} {e : Int} {x : Double}
    (h : ofParts? negative m e = some x) :
    x.negative = negative ∧ x.toRat = sign negative * (m * unit e) := by
  unfold ofParts? at h
  split at h
  · cases h
    exact ⟨rfl, toRat_eq _⟩
  · cases h

/-- The double is nearest to the number `f`. -/
def Nearest (f : ℚ) (x : Double) : Prop :=
  ∀ y : Double, |f - x.toRat| ≤ |f - y.toRat|

namespace Nearest

variable {f : ℚ} {x y : Double}

/-- No double lies strictly between a number and a double nearest to it. -/
theorem le_of_le (h : Nearest f x) (hle : f ≤ y.toRat) : x.toRat ≤ y.toRat := by
  by_contra hlt
  have hnear := h y
  rw [abs_of_nonpos (by linarith), abs_of_nonpos (by linarith)] at hnear
  linarith

theorem ge_of_ge (h : Nearest f x) (hge : y.toRat ≤ f) : y.toRat ≤ x.toRat := by
  by_contra hlt
  have hnear := h y
  rw [abs_of_nonneg (by linarith), abs_of_nonneg (by linarith)] at hnear
  linarith

theorem eq_of_eq (h : Nearest f x) (heq : y.toRat = f) : x.toRat = f :=
  le_antisymm ((h.le_of_le heq.ge).trans heq.le) (heq.ge.trans (h.ge_of_ge heq.le))

end Nearest

section OfRatio

variable {negative : Bool} {num den : Nat} {x : Double}

/-- A fraction is rounded to an integral multiple of the unit at its exponent. -/
theorem toRat_of_ofRatio? (h : ofRatio? negative num den = some x) :
    x.toRat = sign negative * (roundDiv (scale num den (exponentOf num den)).1
      (scale num den (exponentOf num den)).2 * unit (exponentOf num den)) := by
  unfold ofRatio? at h
  dsimp only at h
  split at h
  next hzero =>
    subst hzero
    cases h
    have hscaled : (scale 0 den (exponentOf 0 den)).1 = 0 := by
      cases exponentOf 0 den <;> simp [scale]
    rw [toRat_eq, hscaled]
    simp [zero, roundDiv]
  · split at h
    next hcarry =>
      have hunit : unit 1 = 2 := zpow_one 2
      rw [(toRat_of_ofParts? h).2, hcarry, unit_add, hunit]
      push_cast
      ring
    · exact (toRat_of_ofParts? h).2

theorem abs_sub_toRat_eq (h : ofRatio? negative num den = some x) :
    |sign negative * (num / den) - x.toRat| =
      |((scale num den (exponentOf num den)).1 / (scale num den (exponentOf num den)).2 : ℚ) -
        roundDiv (scale num den (exponentOf num den)).1 (scale num den (exponentOf num den)).2| *
          unit (exponentOf num den) := by
  rw [scale_eq, toRat_of_ofRatio? h, abs_sign_mul_sub, ← mul_assoc, sign_mul_self, one_mul,
    abs_sub_mul_unit]

/-- Measured in units at its exponent, a fraction is rounded to the nearest integer. -/
theorem abs_sub_toRat_le_units (hden : den ≠ 0) (h : ofRatio? negative num den = some x)
    (k : Int) : |sign negative * (num / den) - x.toRat| ≤
      |(num / den : ℚ) - k * unit (exponentOf num den)| := by
  have hscale : 0 < (scale num den (exponentOf num den)).2 :=
    scale_pos (Nat.pos_of_ne_zero hden) _
  rw [abs_sub_toRat_eq h, abs_sub_mul_unit, ← scale_eq]
  exact mul_le_mul_of_nonneg_right (abs_sub_roundDiv_le_abs_sub hscale k) (unit_pos _).le

theorem abs_sub_toRat_le_half (hden : den ≠ 0) (h : ofRatio? negative num den = some x) :
    |sign negative * (num / den) - x.toRat| ≤ 1 / 2 * unit (exponentOf num den) := by
  have hscale : 0 < (scale num den (exponentOf num den)).2 :=
    scale_pos (Nat.pos_of_ne_zero hden) _
  rw [abs_sub_toRat_eq h]
  exact mul_le_mul_of_nonneg_right (abs_sub_roundDiv_le hscale) (unit_pos _).le

/-- The double that a fraction is rounded to is nearest to it. -/
theorem nearest_of_ofRatio? (hden : den ≠ 0) (h : ofRatio? negative num den = some x) :
    Nearest (sign negative * (num / den)) x := by
  intro y
  rw [abs_sign_mul_sub negative _ y.toRat]
  rcases le_or_gt (exponentOf num den) y.exponent with hle | hlt
  · obtain ⟨k, hk⟩ := whole_of_le_exponent y negative hle
    rw [hk]
    exact abs_sub_toRat_le_units hden h k
  · by_cases hnum : num = 0
    · have hzero := abs_sub_toRat_le_units hden h 0
      rw [hnum, Nat.cast_zero, zero_div, mul_zero, Int.cast_zero, zero_mul, sub_zero,
        abs_zero] at hzero
      rw [hnum, Nat.cast_zero, zero_div, mul_zero]
      exact hzero.trans (abs_nonneg _)
    · -- The least number with all bits at the exponent lies between `y` and the fraction.
      have hleast : exponentOf num den ≠ -1074 := by
        have := y.canonical.2.1
        omega
      have hbits := (exponentOf_bounds hnum hden).2.resolve_right hleast
      have hbetween : |sign negative * y.toRat| < unit (exponentOf num den + 52) := by
        rw [abs_mul, abs_sign, one_mul]
        exact abs_toRat_lt y hlt
      have hround := abs_sub_toRat_le_units hden h 0x10000000000000
      rw [← unit_add_mantissa, abs_of_nonneg (sub_nonneg.mpr hbits)] at hround
      have hbelow := (le_abs_self _).trans_lt hbetween
      refine hround.trans (le_trans ?_ (le_abs_self _))
      linarith

/-- If a fraction is at least `unit (-1022)`, the rounding error is less than `1 / 2 ^ 53` of it. -/
theorem abs_sub_toRat_lt (hden : den ≠ 0) (h : ofRatio? negative num den = some x)
    (hsize : unit (-1022) ≤ (num / den : ℚ)) :
    |sign negative * (num / den) - x.toRat| < num / den * unit (-53) := by
  have hnum : num ≠ 0 := by
    rintro rfl
    have := unit_pos (-1022)
    simp at hsize
    linarith
  have hbits : unit (exponentOf num den + 52) ≤ (num / den : ℚ) := by
    refine (exponentOf_bounds hnum hden).2.elim id fun hleast => ?_
    rw [hleast]
    exact hsize
  have hfraction : 1 / 2 * unit (exponentOf num den) =
      unit (exponentOf num den + 52) * unit (-53) := by
    have hhalf : (1 / 2 : ℚ) = unit (-1) := by norm_num [unit]
    rw [hhalf, ← unit_add, ← unit_add]
    congr 1
    ring
  rcases hbits.eq_or_lt with heq | hlt
  · have hexact := abs_sub_toRat_le_units hden h 0x10000000000000
    rw [← unit_add_mantissa, heq, sub_self, abs_zero] at hexact
    exact hexact.trans_lt (mul_pos ((unit_pos _).trans_le hsize) (unit_pos _))
  · calc |sign negative * (num / den) - x.toRat|
      _ ≤ 1 / 2 * unit (exponentOf num den) := abs_sub_toRat_le_half hden h
      _ = unit (exponentOf num den + 52) * unit (-53) := hfraction
      _ < num / den * unit (-53) := mul_lt_mul_of_pos_right hlt (unit_pos _)

theorem isSome_ofRatio? (negative : Bool) (hden : den ≠ 0)
    (hsize : (num / den : ℚ) < unit 1023) : (ofRatio? negative num den).isSome := by
  unfold ofRatio?
  split
  · rfl
  next hnum =>
    obtain ⟨hupper, hlower⟩ := exponentOf_bounds hnum hden
    have hleast := least_le_exponentOf num den
    have hexponent : exponentOf num den ≤ 970 := by
      rcases hlower with hlower | hleast
      · by_contra hlarge
        have := (unit_le_unit (by omega : 1023 ≤ exponentOf num den + 52)).trans hlower
        linarith
      · omega
    have hfloor : (scale num den (exponentOf num den)).1 /
        (scale num den (exponentOf num den)).2 < 0x20000000000000 :=
      (scale_div_lt hden _ 53).mpr hupper
    have hnormal : 0x10000000000000 ≤ (scale num den (exponentOf num den)).1 /
        (scale num den (exponentOf num den)).2 ∨ exponentOf num den = -1074 :=
      hlower.imp_left fun hlower => not_lt.mp (mt (scale_div_lt_normal hden _).mp hlower.not_gt)
    have hlow := le_roundDiv (scale num den (exponentOf num den)).1
      (scale num den (exponentOf num den)).2
    have hhigh := roundDiv_le (scale num den (exponentOf num den)).1
      (scale num den (exponentOf num den)).2
    dsimp only
    split
    · exact isSome_ofParts? _ ⟨by decide, by omega, by omega, .inl le_rfl⟩
    next hcarry =>
      refine isSome_ofParts? _ ⟨by omega, hleast, by omega, ?_⟩
      exact hnormal.imp_left fun hnormal => hnormal.trans hlow

end OfRatio

section OfInt

theorem ofRatio?_ofInt (n : Int) (h : n.natAbs < 0x20000000000000000) :
    ofRatio? (n < 0) n.natAbs 1 = some (ofInt n h) :=
  (Option.some_get _).symm

theorem sign_mul_natAbs (n : Int) : sign (n < 0) * (n.natAbs / (1 : Nat)) = n := by
  rw [Nat.cast_one, div_one, Nat.cast_natAbs, sign]
  rcases lt_or_ge n 0 with hn | hn
  · rw [abs_of_neg hn]
    simp [hn]
  · rw [abs_of_nonneg hn]
    simp [not_lt.mpr hn]

/-- A machine integer is converted to a double nearest to it. -/
theorem nearest_ofInt (n : Int) (h : n.natAbs < 0x20000000000000000) : Nearest n (ofInt n h) := by
  have hnearest := nearest_of_ofRatio? one_ne_zero (ofRatio?_ofInt n h)
  rwa [sign_mul_natAbs] at hnearest

/-- Integers up to `2 ^ 53` are converted exactly. -/
theorem toRat_ofInt {n : Int} (h : n.natAbs < 0x20000000000000000)
    (hsmall : n.natAbs ≤ 0x20000000000000) : (ofInt n h).toRat = n := by
  suffices hwhole : ∃ k : Int, (n.natAbs / (1 : Nat) : ℚ) = k * unit (exponentOf n.natAbs 1) by
    obtain ⟨k, hk⟩ := hwhole
    have hround := abs_sub_toRat_le_units one_ne_zero (ofRatio?_ofInt n h) k
    rw [← hk, sub_self, abs_zero, sign_mul_natAbs] at hround
    exact (sub_eq_zero.mp (abs_nonpos_iff.mp hround)).symm
  rw [Nat.cast_one, div_one]
  by_cases hzero : n.natAbs = 0
  · exact ⟨0, by simp [hzero]⟩
  rw [exponentOf_one _ hzero]
  rcases hsmall.eq_or_lt with heq | hlt
  · refine ⟨0x10000000000000, ?_⟩
    have hlog : Nat.log2 0x20000000000000 = 53 := by decide +kernel
    rw [heq, hlog]
    norm_num [unit]
  · -- The exponent is not positive, and its unit divides every integer.
    have hlog : n.natAbs.log2 < 53 := (Nat.log2_lt hzero).mpr hlt
    refine ⟨n.natAbs * 2 ^ (52 - n.natAbs.log2), ?_⟩
    have hunit : unit (n.natAbs.log2 - 52) = (2 ^ (52 - n.natAbs.log2))⁻¹ := by
      rw [← unit_natCast, unit, unit, ← zpow_neg]
      congr 1
      omega
    rw [hunit, Int.cast_mul, Int.cast_pow, Int.cast_natCast, Int.cast_ofNat, mul_assoc,
      mul_inv_cancel₀ (pow_ne_zero _ two_ne_zero), mul_one]

end OfInt

end SchemaCheck.Double
