import Mathlib.Data.Nat.Cast.Order.Field
import SchemaCheck.Number.Decimal
import SchemaCheck.Proofs.Number.Quotient

/-!
The shortest decimal of a double. The decimal lies between the midpoints of the double and its
neighbours, because the search for it reaches grids that are finer than their distance. No number
lies between the midpoints of two different doubles, so that the decimal determines the double, up
to its sign.
-/

namespace SchemaCheck

namespace Decimal

def toRat (d : Decimal) : ℚ :=
  d.coefficient * 10 ^ d.exponent

section Grid

variable {num low high den c : Nat} {closed : Bool} {p : Int}

theorem ten_zpow_pos (p : Int) : (0 : ℚ) < 10 ^ p :=
  zpow_pos (by norm_num) p

theorem ten_zpow_eq (p : Int) :
    (10 : ℚ) ^ p = (Nat.pow 10 p.toNat : Nat) / (Nat.pow 10 (-p).toNat : Nat) :=
  Double.zpow_eq_div (b := 10) (by decide) p

/-- The number lies between the bounds, which are included if `closed` is set. -/
def Between (closed : Bool) (low high f : ℚ) : Prop :=
  if closed then low ≤ f ∧ f ≤ high else low < f ∧ f < high

theorem Between.le {low high f : ℚ} (h : Between closed low high f) : low ≤ f ∧ f ≤ high := by
  unfold Between at h
  split at h
  · exact h
  · exact ⟨h.1.le, h.2.le⟩

theorem between_of_lt {low high f : ℚ} (hlow : low < f) (hhigh : f < high) :
    Between closed low high f := by
  unfold Between
  split
  · exact ⟨hlow.le, hhigh.le⟩
  · exact ⟨hlow, hhigh⟩

theorem within_iff (hden : 0 < den) : within low high den closed c p = true ↔
    Between closed (low / den) (high / den) (c * 10 ^ p) := by
  have hden : (0 : ℚ) < den := mod_cast hden
  have hunit : (0 : ℚ) < (Nat.pow 10 (-p).toNat : Nat) := mod_cast Nat.pow_pos (by decide)
  have hvalue : (c * 10 ^ p : ℚ) =
      (c * Nat.pow 10 p.toNat : Nat) / (Nat.pow 10 (-p).toNat : Nat) := by
    rw [ten_zpow_eq, Nat.cast_mul, mul_div_assoc]
  unfold within Between
  rw [hvalue, div_le_div_iff₀ hden hunit, div_le_div_iff₀ hunit hden, div_lt_div_iff₀ hden hunit,
    div_lt_div_iff₀ hunit hden]
  cases closed
  · simp only [Bool.false_eq_true, if_false, Bool.and_eq_true, decide_eq_true_eq]
    norm_cast
  · simp only [if_true, Bool.and_eq_true, decide_eq_true_eq]
    norm_cast

theorem within_of_nearestOnGrid (h : nearestOnGrid num low high den closed p = some c) :
    within low high den closed c p = true := by
  unfold nearestOnGrid at h
  dsimp only at h
  split at h
  next hbelow habove =>
    cases h
    split
    · exact (Bool.and_eq_true _ _ ▸ hbelow).1
    · exact habove
  next hbelow _ =>
    cases h
    exact (Bool.and_eq_true _ _ ▸ hbelow).1
  next _ habove =>
    cases h
    exact habove
  next => cases h

/-- A grid that is finer than the distance to the lower bound has a point between the bounds. -/
theorem exists_nearestOnGrid (hden : 0 < den) (hlow : (low / den + 10 ^ p : ℚ) < num / den)
    (hhigh : num < high) : ∃ c, nearestOnGrid num low high den closed p = some c := by
  have hten := ten_zpow_pos p
  have hdenq : (0 : ℚ) < den := mod_cast hden
  have hunit : (0 : ℚ) < (Nat.pow 10 (-p).toNat : Nat) := mod_cast Nat.pow_pos (by decide)
  have hstep : 0 < den * Nat.pow 10 p.toNat := Nat.mul_pos hden (Nat.pow_pos (by decide))
  generalize hb : num * Nat.pow 10 (-p).toNat / (den * Nat.pow 10 p.toNat) = below
  -- The grid point below the fraction, at a distance of less than one step.
  have hfraction : (num / den : ℚ) =
      (num * Nat.pow 10 (-p).toNat : Nat) / (den * Nat.pow 10 p.toNat : Nat) * 10 ^ p := by
    have hpos : (0 : ℚ) < (Nat.pow 10 p.toNat : Nat) := mod_cast Nat.pow_pos (by decide)
    rw [ten_zpow_eq, Nat.cast_mul, Nat.cast_mul]
    field_simp
  have hle : (below * 10 ^ p : ℚ) ≤ num / den := by
    rw [hfraction, ← hb]
    exact mul_le_mul_of_nonneg_right Nat.cast_div_le hten.le
  have hlt : (num / den : ℚ) < (below + 1) * 10 ^ p := by
    rw [hfraction, ← hb]
    refine mul_lt_mul_of_pos_right ?_ hten
    rw [div_lt_iff₀ (mod_cast hstep)]
    exact_mod_cast (Nat.div_lt_iff_lt_mul hstep).mp (Nat.lt_succ_self _)
  have hinside : within low high den closed below p = true := by
    refine (within_iff hden).mpr (between_of_lt (by linarith) (hle.trans_lt ?_))
    exact (div_lt_div_iff_of_pos_right hdenq).mpr (mod_cast hhigh)
  have hzero : below ≠ 0 := by
    rintro rfl
    have : (0 : ℚ) ≤ low / den := div_nonneg (Nat.cast_nonneg _) (Nat.cast_nonneg _)
    rw [Nat.cast_zero, zero_add, one_mul] at hlt
    linarith
  unfold nearestOnGrid
  dsimp only
  rw [hb, hinside, bne_iff_ne.mpr hzero]
  cases within low high den closed (below + 1) p <;> exact ⟨_, rfl⟩

theorem within_search {steps : Nat} (h : ∃ i < steps, ∃ c,
      nearestOnGrid num low high den closed (p - i) = some c) :
    within low high den closed (search num low high den closed steps p).coefficient
      (search num low high den closed steps p).exponent = true := by
  induction steps generalizing p with
  | zero =>
      obtain ⟨i, hi, -⟩ := h
      exact absurd hi (Nat.not_lt_zero i)
  | succ steps ih =>
      rw [search]
      cases hgrid : nearestOnGrid num low high den closed p with
      | some c => exact within_of_nearestOnGrid hgrid
      | none =>
          refine ih ?_
          obtain ⟨i, hi, c, hc⟩ := h
          cases i with
          | zero =>
              rw [Int.natCast_zero, Int.sub_zero, hgrid] at hc
              cases hc
          | succ i =>
              refine ⟨i, Nat.lt_of_succ_lt_succ hi, c, ?_⟩
              rw [← hc]
              congr 1
              omega

end Grid

end Decimal

namespace Double

variable {x y : Double} {f : ℚ}

/-- Half the distance of a double to the next lower one, in absolute value. For a power of two this
neighbour has a lower exponent. -/
def reachBelow (x : Double) : ℚ :=
  if x.mantissa = 0x10000000000000 ∧ x.exponent ≠ -1074 then unit (x.exponent - 2)
  else unit (x.exponent - 1)

/-- The number lies between the midpoints of the absolute value of the double and its neighbours.
The midpoints are included if the mantissa is even. -/
def Covers (x : Double) (f : ℚ) : Prop :=
  Decimal.Between (x.mantissa % 2 == 0) (|x.toRat| - x.reachBelow)
    (|x.toRat| + unit (x.exponent - 1)) f

theorem unit_pred (e : Int) : unit (e - 1) = unit e / 2 := by
  rw [sub_eq_add_neg, unit_add, div_eq_mul_inv]
  norm_num [unit]

theorem unit_pred_pred (e : Int) : unit (e - 2) = unit e / 4 := by
  have hpred : e - 2 = e - 1 - 1 := by omega
  rw [hpred, unit_pred, unit_pred, div_div]
  norm_num

theorem reachBelow_le (x : Double) : x.reachBelow ≤ unit (x.exponent - 1) := by
  unfold reachBelow
  split
  · exact unit_le_unit (by omega)
  · exact le_rfl

theorem le_reachBelow (x : Double) : unit (x.exponent - 2) ≤ x.reachBelow := by
  unfold reachBelow
  split
  · exact le_rfl
  · exact unit_le_unit (by omega)

section Shortest

/-- A power of ten is at most a power of two, because `10 ^ 3 ≤ 2 ^ 10` for positive exponents and
`2 ^ 93 ≤ 10 ^ 28` for negative ones. -/
theorem ten_zpow_le_unit {p s : Int} (h : 0 ≤ p ∧ 10 * p ≤ 3 * s ∨ p ≤ 0 ∧ 93 * p ≤ 28 * s) :
    (10 : ℚ) ^ p ≤ unit s := by
  have hten : (0 : ℚ) ≤ 10 ^ p := (Decimal.ten_zpow_pos p).le
  rcases h with ⟨hp, hle⟩ | ⟨hp, hle⟩
  · refine (zpow_le_zpow_iff_left₀ hten (unit_pos s).le (by decide : (0 : Int) < 3)).mp ?_
    calc ((10 : ℚ) ^ p) ^ (3 : Int)
      _ = ((10 : ℚ) ^ (3 : Int)) ^ p := by rw [← zpow_mul, ← zpow_mul, mul_comm]
      _ ≤ ((2 : ℚ) ^ (10 : Int)) ^ p := zpow_le_zpow_left₀ hp (by norm_num) (by norm_num)
      _ = unit (10 * p) := (zpow_mul 2 10 p).symm
      _ ≤ unit (3 * s) := unit_le_unit hle
      _ = unit s ^ (3 : Int) := by rw [unit, unit, mul_comm, zpow_mul]
  · refine (zpow_le_zpow_iff_left₀ hten (unit_pos s).le (by decide : (0 : Int) < 28)).mp ?_
    calc ((10 : ℚ) ^ p) ^ (28 : Int)
      _ = (((10 : ℚ) ^ (28 : Int))⁻¹) ^ (-p) := by
        rw [inv_zpow', neg_neg, ← zpow_mul, ← zpow_mul, mul_comm]
      _ ≤ (((2 : ℚ) ^ (93 : Int))⁻¹) ^ (-p) :=
        zpow_le_zpow_left₀ (by omega) (by norm_num) (by norm_num)
      _ = unit (93 * p) := by rw [inv_zpow', neg_neg, unit, zpow_mul]
      _ ≤ unit (28 * s) := unit_le_unit hle
      _ = unit s ^ (28 : Int) := by rw [unit, unit, mul_comm, zpow_mul]

/-- The bounds of the search, written with its common denominator. -/
theorem bounds_div (hx : x.isZero = false) :
    let half := 2 * Nat.pow 2 x.exponent.toNat
    let halfBelow := if x.mantissa = 0x10000000000000 ∧ x.exponent ≠ -1074 then half / 2 else half
    ((4 * x.num : Nat) / (4 * x.den : Nat) : ℚ) = |x.toRat| ∧
      ((4 * x.num - halfBelow : Nat) / (4 * x.den : Nat) : ℚ) = |x.toRat| - x.reachBelow ∧
      ((4 * x.num + half : Nat) / (4 * x.den : Nat) : ℚ) =
        |x.toRat| + unit (x.exponent - 1) := by
  intro half halfBelow
  have hden : (x.den : ℚ) ≠ 0 := mod_cast x.den_pos.ne'
  have hvalue : ((4 * x.num : Nat) / (4 * x.den : Nat) : ℚ) = |x.toRat| := by
    rw [abs_toRat_eq, Nat.cast_mul, Nat.cast_mul, mul_div_mul_left _ _ (by norm_num)]
  have hunit : (Nat.pow 2 x.exponent.toNat / x.den : ℚ) = unit x.exponent :=
    (unit_eq_div x.exponent).symm
  have hhalf : (half / (4 * x.den : Nat) : ℚ) = unit (x.exponent - 1) := by
    rw [unit_pred, ← hunit, Nat.cast_mul, Nat.cast_mul]
    field_simp
    norm_num
  have hbelow : (halfBelow / (4 * x.den : Nat) : ℚ) = x.reachBelow := by
    unfold reachBelow
    by_cases hpower : x.mantissa = 0x10000000000000 ∧ x.exponent ≠ -1074
    · have hquarter : halfBelow = Nat.pow 2 x.exponent.toNat := by
        simp only [halfBelow, half, if_pos hpower]
        omega
      rw [if_pos hpower, hquarter, unit_pred_pred, ← hunit, Nat.cast_mul]
      field_simp
      norm_num
    · simp only [halfBelow, if_neg hpower]
      exact hhalf
  have hle : halfBelow ≤ 4 * x.num := by
    have hmantissa : 1 ≤ x.mantissa := Nat.one_le_iff_ne_zero.mpr (beq_eq_false_iff_ne.mp hx)
    have hnum : Nat.pow 2 x.exponent.toNat ≤ x.num := Nat.le_mul_of_pos_left _ hmantissa
    have hhalfBelow : halfBelow ≤ half := by
      simp only [halfBelow]
      split <;> omega
    omega
  refine ⟨hvalue, ?_, ?_⟩
  · rw [Nat.cast_sub hle, sub_div, hvalue, hbelow]
  · rw [Nat.cast_add, add_div, hvalue, hhalf]

/-- The shortest decimal of a double lies between the midpoints around it. -/
theorem covers_shortest (x : Double) : x.Covers (Decimal.shortest x).toRat := by
  have hexponent := x.canonical
  cases hx : x.isZero with
  | true =>
      have hzero : (Decimal.shortest x).toRat = 0 := by
        rw [Decimal.shortest, if_pos hx, Decimal.toRat, Nat.cast_zero, zero_mul]
      rw [hzero, Covers, (isZero_iff x).mp hx, abs_zero, zero_sub, zero_add]
      refine Decimal.between_of_lt (neg_neg_of_pos ?_) (unit_pos _)
      exact (unit_pos _).trans_le x.le_reachBelow
  | false =>
      obtain ⟨hvalue, hlow, hhigh⟩ := bounds_div hx
      have hden : 0 < 4 * x.den := Nat.mul_pos (by decide) x.den_pos
      rw [Covers, ← hlow, ← hhigh, Decimal.shortest, hx, if_neg Bool.false_ne_true]
      refine (Decimal.within_iff hden).mp (Decimal.within_search ⟨23, by decide, ?_⟩)
      refine Decimal.exists_nearestOnGrid hden ?_ (Nat.lt_add_of_pos_right ?_)
      · have hlog : x.mantissa.log2 < 53 := by
          refine (Nat.log2_lt ?_).mpr hexponent.1
          exact beq_eq_false_iff_ne.mp hx
        have hgrid : (10 : ℚ) ^ (((x.mantissa.log2 : Int) + x.exponent) * 30103 / 100000 + 2 -
            (23 : Nat)) ≤ unit (x.exponent - 3) := by
          obtain ⟨-, hleast, hgreatest, -⟩ := hexponent
          exact ten_zpow_le_unit (by omega)
        have hfiner : unit (x.exponent - 3) < unit (x.exponent - 2) :=
          zpow_lt_zpow_right₀ one_lt_two (by omega)
        rw [hvalue, hlow]
        linarith [x.le_reachBelow]
      · exact Nat.mul_pos (by decide) (Nat.two_pow_pos _)

end Shortest

section Separate

theorem Covers.bounds (h : x.Covers f) :
    x.mantissa * unit x.exponent - x.reachBelow ≤ f ∧
      f ≤ x.mantissa * unit x.exponent + unit x.exponent / 2 := by
  have hle := Decimal.Between.le h
  rwa [abs_toRat, unit_pred] at hle

/-- For an odd mantissa the midpoints are excluded. -/
theorem Covers.bounds_of_odd (h : x.Covers f) (hodd : x.mantissa % 2 = 1) :
    x.mantissa * unit x.exponent - x.reachBelow < f ∧
      f < x.mantissa * unit x.exponent + unit x.exponent / 2 := by
  have hopen : (x.mantissa % 2 == 0) = false := by rw [hodd]; rfl
  rw [Covers, hopen, abs_toRat, unit_pred] at h
  exact h

/-- Two doubles with the same exponent do not cover a common number, since one of two neighbours has
an odd mantissa. -/
theorem not_covers_of_exponent_eq (hexponent : x.exponent = y.exponent)
    (hlt : x.mantissa < y.mantissa) (hx : x.Covers f) : ¬ y.Covers f := by
  intro hy
  have hunit := unit_pos y.exponent
  have hreach := y.reachBelow_le
  rw [unit_pred] at hreach
  obtain ⟨-, hxf⟩ := hx.bounds
  obtain ⟨hfy, -⟩ := hy.bounds
  rw [hexponent] at hxf
  have hnext : y.mantissa = x.mantissa + 1 := by
    have hle : (y.mantissa : ℚ) * unit y.exponent ≤ (x.mantissa + 1) * unit y.exponent := by
      linarith
    have hle : (y.mantissa : ℚ) ≤ (x.mantissa + 1 : Nat) := by
      rw [Nat.cast_add, Nat.cast_one]
      exact le_of_mul_le_mul_right hle hunit
    have hle : y.mantissa ≤ x.mantissa + 1 := by exact_mod_cast hle
    omega
  have hsum : (y.mantissa : ℚ) * unit y.exponent =
      x.mantissa * unit y.exponent + unit y.exponent := by
    rw [hnext]
    push_cast
    ring
  rcases Nat.mod_two_eq_zero_or_one x.mantissa with heven | hodd
  · have hstrict := (hy.bounds_of_odd (by omega)).1
    linarith
  · have hstrict := (hx.bounds_of_odd hodd).2
    rw [hexponent] at hstrict
    linarith

/-- Two doubles with different exponents do not cover a common number. Next to a power of two, the
lower one has the greatest mantissa, which is odd. -/
theorem not_covers_of_exponent_lt (hexponent : x.exponent < y.exponent) (hx : x.Covers f) :
    ¬ y.Covers f := by
  intro hy
  have hunit := unit_pos x.exponent
  have hdouble : unit x.exponent ≤ unit y.exponent / 2 := by
    rw [← unit_pred]
    exact unit_le_unit (by omega)
  have hleast := x.canonical.2.1
  have hnormal : 0x10000000000000 ≤ y.mantissa := y.canonical.2.2.2.resolve_right (by omega)
  have hmantissa : x.mantissa ≤ 0x1fffffffffffff := Nat.le_of_lt_succ x.canonical.1
  obtain ⟨-, hxf⟩ := hx.bounds
  obtain ⟨hfy, -⟩ := hy.bounds
  have htop : (0x1fffffffffffff * unit x.exponent + unit x.exponent / 2 : ℚ) ≤
      0x10000000000000 * unit y.exponent - unit y.exponent / 4 := by linarith
  rcases hnormal.eq_or_lt with hpower | hmore
  · have hreach : y.reachBelow = unit y.exponent / 4 := by
      rw [reachBelow, if_pos ⟨hpower.symm, by omega⟩, unit_pred_pred]
    rw [← hpower, hreach] at hfy
    push_cast at hfy
    rcases hmantissa.eq_or_lt with hgreatest | hless
    · have hstrict := (hx.bounds_of_odd (by omega)).2
      rw [hgreatest] at hstrict
      push_cast at hstrict
      linarith
    · have hless : (x.mantissa : ℚ) * unit x.exponent ≤ 0x1ffffffffffffe * unit x.exponent :=
        mul_le_mul_of_nonneg_right (mod_cast Nat.le_of_lt_succ hless) hunit.le
      linarith
  · have hreach := y.reachBelow_le
    rw [unit_pred] at hreach
    have hless : (x.mantissa : ℚ) * unit x.exponent ≤ 0x1fffffffffffff * unit x.exponent :=
      mul_le_mul_of_nonneg_right (mod_cast hmantissa) hunit.le
    have hmore : (0x10000000000001 : ℚ) * unit y.exponent ≤ y.mantissa * unit y.exponent :=
      mul_le_mul_of_nonneg_right (mod_cast hmore) (unit_pos _).le
    linarith

/-- Doubles that cover a common number are equal up to sign. -/
theorem abs_eq_of_covers (hx : x.Covers f) (hy : y.Covers f) : |x.toRat| = |y.toRat| := by
  rcases lt_trichotomy x.exponent y.exponent with hlt | heq | hgt
  · exact absurd hy (not_covers_of_exponent_lt hlt hx)
  · rcases lt_trichotomy x.mantissa y.mantissa with hless | hsame | hmore
    · exact absurd hy (not_covers_of_exponent_eq heq hless hx)
    · rw [abs_toRat, abs_toRat, heq, hsame]
    · exact absurd hx (not_covers_of_exponent_eq heq.symm hmore hy)
  · exact absurd hx (not_covers_of_exponent_lt hgt hy)

/-- Doubles with the same shortest decimal are equal up to sign. -/
theorem abs_eq_of_shortest (h : (Decimal.shortest x).toRat = (Decimal.shortest y).toRat) :
    |x.toRat| = |y.toRat| :=
  abs_eq_of_covers x.covers_shortest (h ▸ y.covers_shortest)

end Separate

end Double

end SchemaCheck
