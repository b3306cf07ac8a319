import Mathlib.Algebra.Order.Field.Power
import Mathlib.Algebra.Order.Field.Rat
import Mathlib.Algebra.Order.Round
import Mathlib.Data.Rat.Floor
import Mathlib.Tactic.FieldSimp
import Mathlib.Tactic.Linarith
import Mathlib.Tactic.Ring
import SchemaCheck.Number.Double

/-!
The rational values of doubles. The order of doubles is the order of their values.
-/

namespace SchemaCheck.Double

/-- The rational value of a double. -/
def toRat (x : Double) : ℚ :=
  x.signedNum / x.den

/-- The distance of two neighbouring doubles at an exponent. -/
def unit (exponent : Int) : ℚ :=
  2 ^ exponent

theorem unit_pos (e : Int) : 0 < unit e :=
  zpow_pos two_pos e

theorem unit_le_unit {a b : Int} (h : a ≤ b) : unit a ≤ unit b :=
  zpow_le_zpow_right₀ one_le_two h

theorem unit_add (a b : Int) : unit (a + b) = unit a * unit b :=
  zpow_add₀ two_ne_zero a b

theorem unit_natCast (n : Nat) : unit n = 2 ^ n :=
  zpow_natCast 2 n

/-- A power with an integer exponent as a fraction of two natural powers, one of which is one. -/
theorem zpow_eq_div {b : Nat} (hb : b ≠ 0) (p : Int) :
    (b : ℚ) ^ p = (Nat.pow b p.toNat : Nat) / (Nat.pow b (-p).toNat : Nat) := by
  have hsplit : p = (p.toNat : Int) - ((-p).toNat : Int) := by omega
  conv_lhs => rw [hsplit]
  rw [zpow_sub₀ (mod_cast hb), zpow_natCast, zpow_natCast]
  push_cast [Nat.pow_eq]
  rfl

theorem unit_eq_div (e : Int) :
    unit e = (Nat.pow 2 e.toNat : Nat) / (Nat.pow 2 (-e).toNat : Nat) :=
  zpow_eq_div two_ne_zero e

section Value

variable {x y : Double}

theorem num_div_den (x : Double) : (x.num / x.den : ℚ) = x.mantissa * unit x.exponent := by
  rw [unit_eq_div, num, den, Nat.cast_mul, mul_div_assoc]

theorem toRat_eq (x : Double) :
    x.toRat = (if x.negative then -1 else 1) * (x.mantissa * unit x.exponent) := by
  rw [← num_div_den, toRat, signedNum]
  split
  · push_cast
    rw [neg_div, neg_one_mul]
  · push_cast
    rw [one_mul]

theorem abs_toRat (x : Double) : |x.toRat| = x.mantissa * unit x.exponent := by
  have hsize : (0 : ℚ) ≤ x.mantissa * unit x.exponent :=
    mul_nonneg x.mantissa.cast_nonneg (unit_pos _).le
  rw [toRat_eq, abs_mul, abs_of_nonneg hsize]
  split <;> simp

/-- The order of doubles is the order of their values. -/
theorem compare_eq (x y : Double) : x.compare y = Ord.compare x.toRat y.toRat := by
  have hx : (0 : ℚ) < x.den := mod_cast x.den_pos
  have hy : (0 : ℚ) < y.den := mod_cast y.den_pos
  unfold Double.compare
  rcases lt_trichotomy (x.signedNum * y.den) (y.signedNum * x.den) with h | h | h
  · have hlt : x.toRat < y.toRat := (div_lt_div_iff₀ hx hy).mpr (mod_cast h)
    rw [compare_lt_iff_lt.mpr h, compare_lt_iff_lt.mpr hlt]
  · have heq : x.toRat = y.toRat := (div_eq_div_iff hx.ne' hy.ne').mpr (mod_cast h)
    rw [compare_eq_iff_eq.mpr h, compare_eq_iff_eq.mpr heq]
  · have hgt : y.toRat < x.toRat := (div_lt_div_iff₀ hy hx).mpr (mod_cast h)
    rw [compare_gt_iff_gt.mpr h, compare_gt_iff_gt.mpr hgt]

end Value

end SchemaCheck.Double
