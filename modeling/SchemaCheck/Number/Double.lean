/-!
Finite binary64 numbers in a canonical form: a sign, a mantissa and a power of two. Arithmetic is
exact on this form and rounds once, to the nearest double with ties to the even mantissa; results
beyond the largest double are rejected.
-/

namespace SchemaCheck

namespace Double

/-- The mantissa has 53 bits, or fewer at the least exponent. -/
def Canonical (mantissa : Nat) (exponent : Int) : Prop :=
  mantissa < 0x20000000000000 ∧ -1074 ≤ exponent ∧ exponent ≤ 971 ∧
    (0x10000000000000 ≤ mantissa ∨ exponent = -1074)

instance (mantissa : Nat) (exponent : Int) : Decidable (Canonical mantissa exponent) :=
  inferInstanceAs (Decidable (_ ∧ _))

end Double

/-- The number `±mantissa * 2 ^ exponent`. Zero keeps its sign. -/
structure Double where
  negative : Bool
  mantissa : Nat
  exponent : Int
  canonical : Double.Canonical mantissa exponent
  deriving DecidableEq

namespace Double

def zero (negative : Bool) : Double :=
  ⟨negative, 0, -1074, by decide⟩

instance : Inhabited Double := ⟨zero false⟩

def neg (x : Double) : Double :=
  { x with negative := !x.negative }

def ofParts? (negative : Bool) (mantissa : Nat) (exponent : Int) : Option Double :=
  if h : Canonical mantissa exponent then some ⟨negative, mantissa, exponent, h⟩ else none

/-- `num / den` rounded to the nearest natural number, ties to even. -/
def roundDiv (num den : Nat) : Nat :=
  let quotient := num / den
  let rest := 2 * (num % den)
  if rest < den then quotient
  else if den < rest then quotient + 1
  else quotient + quotient % 2

/-- Numerator and denominator of `num / den / 2 ^ exponent`. -/
def scale (num den : Nat) : Int → Nat × Nat
  | .ofNat k => (num, den * Nat.pow 2 k)
  | .negSucc k => (num * Nat.pow 2 (k + 1), den)

/-- The exponent at which `num / den` has a mantissa of 53 bits, or else the least exponent. -/
def exponentOf (num den : Nat) : Int :=
  let guess : Int := max ((num.log2 : Int) - den.log2 - 52) (-1074)
  let scaled := scale num den guess
  if scaled.1 / scaled.2 < 0x10000000000000 then max (guess - 1) (-1074) else guess

/-- The double nearest to `±num / den`, unless that is beyond the largest one. -/
def ofRatio? (negative : Bool) (num den : Nat) : Option Double :=
  if num = 0 then some (zero negative)
  else
    let exponent := exponentOf num den
    let scaled := scale num den exponent
    let mantissa := roundDiv scaled.1 scaled.2
    if mantissa = 0x20000000000000 then ofParts? negative 0x10000000000000 (exponent + 1)
    else ofParts? negative mantissa exponent

theorem le_roundDiv (a b : Nat) : a / b ≤ roundDiv a b := by
  unfold roundDiv; dsimp only; split
  · exact Nat.le_refl _
  · split <;> omega

theorem roundDiv_le (a b : Nat) : roundDiv a b ≤ a / b + 1 := by
  unfold roundDiv; dsimp only; split
  · omega
  · split <;> omega

theorem isSome_ofParts? (negative : Bool) {m : Nat} {e : Int} (h : Canonical m e) :
    (ofParts? negative m e).isSome := by
  simp [ofParts?, h]

/-- A natural number scaled by its own exponent has a mantissa of 53 bits. -/
theorem scale_log (n : Nat) (h : n ≠ 0) :
    0x10000000000000 ≤ (scale n 1 (n.log2 - 52)).1 / (scale n 1 (n.log2 - 52)).2 ∧
      (scale n 1 (n.log2 - 52)).1 / (scale n 1 (n.log2 - 52)).2 < 0x20000000000000 := by
  have low : 2 ^ n.log2 ≤ n := Nat.log2_self_le h
  have high : n < 2 ^ (n.log2 + 1) := Nat.lt_log2_self
  rcases Nat.lt_or_ge n.log2 52 with hlt | hge
  · obtain ⟨k, hk⟩ : ∃ k, 52 = n.log2 + (k + 1) := ⟨52 - n.log2 - 1, by omega⟩
    have he : (n.log2 : Int) - 52 = Int.negSucc k := by omega
    rw [he]
    simp only [scale, Nat.div_one, Nat.pow_eq]
    have h52 : 0x10000000000000 = 2 ^ n.log2 * 2 ^ (k + 1) := by rw [← Nat.pow_add, ← hk]
    have h53 : 0x20000000000000 = 2 ^ (n.log2 + 1) * 2 ^ (k + 1) := by
      have hsum : n.log2 + 1 + (k + 1) = 53 := by omega
      rw [← Nat.pow_add, hsum]
    rw [h52, h53]
    exact ⟨Nat.mul_le_mul_right _ low, Nat.mul_lt_mul_of_pos_right high (Nat.two_pow_pos _)⟩
  · obtain ⟨k, hk⟩ : ∃ k, n.log2 = 52 + k := ⟨n.log2 - 52, by omega⟩
    have he : (n.log2 : Int) - 52 = Int.ofNat k := by rw [Int.ofNat_eq_natCast]; omega
    rw [he]
    simp only [scale, Nat.one_mul, Nat.pow_eq]
    have h52 : 0x10000000000000 * 2 ^ k = 2 ^ n.log2 := by
      rw [hk, Nat.pow_add]
    have h53 : 0x20000000000000 * 2 ^ k = 2 ^ (n.log2 + 1) := by
      have hsum : n.log2 + 1 = 53 + k := by omega
      rw [hsum, Nat.pow_add]
    constructor
    · rw [Nat.le_div_iff_mul_le (Nat.two_pow_pos _), h52]
      exact low
    · rw [Nat.div_lt_iff_lt_mul (Nat.two_pow_pos _), h53]
      exact high

theorem exponentOf_one (n : Nat) (h : n ≠ 0) : exponentOf n 1 = n.log2 - 52 := by
  have guess : max ((n.log2 : Int) - Nat.log2 1 - 52) (-1074) = n.log2 - 52 := by
    have : Nat.log2 1 = 0 := by decide
    omega
  unfold exponentOf
  dsimp only
  rw [guess, if_neg (Nat.not_lt.2 (scale_log n h).1)]

theorem isSome_ofRatio?_one (negative : Bool) {n : Nat} (h : n < 0x20000000000000000) :
    (ofRatio? negative n 1).isSome := by
  unfold ofRatio?
  split
  · rfl
  next hn =>
    have hlog : n.log2 < 65 := (Nat.log2_lt hn).2 h
    dsimp only
    rw [exponentOf_one n hn]
    have bounds := scale_log n hn
    have low := le_roundDiv (scale n 1 (n.log2 - 52)).1 (scale n 1 (n.log2 - 52)).2
    have high := roundDiv_le (scale n 1 (n.log2 - 52)).1 (scale n 1 (n.log2 - 52)).2
    split
    · exact isSome_ofParts? _ ⟨by decide, by omega, by omega, .inl (Nat.le_refl _)⟩
    next hm => exact isSome_ofParts? _ ⟨by omega, by omega, by omega, .inl (by omega)⟩

/-- The double nearest to an integer of 64 bits, which always exists. -/
def ofInt (n : Int) (h : n.natAbs < 0x20000000000000000) : Double :=
  (ofRatio? (n < 0) n.natAbs 1).get (isSome_ofRatio?_one _ h)

/-- The double nearest to `±coefficient * 10 ^ exponent`. -/
def ofDecimal? (negative : Bool) (coefficient : Nat) : Int → Option Double
  | .ofNat k => ofRatio? negative (coefficient * Nat.pow 10 k) 1
  | .negSucc k => ofRatio? negative coefficient (Nat.pow 10 (k + 1))

/-- The numerator of the absolute value. -/
def num (x : Double) : Nat :=
  x.mantissa * Nat.pow 2 x.exponent.toNat

/-- The denominator of the absolute value. -/
def den (x : Double) : Nat :=
  Nat.pow 2 (-x.exponent).toNat

theorem den_pos (x : Double) : 0 < x.den :=
  Nat.two_pow_pos _

def signedNum (x : Double) : Int :=
  if x.negative then -(x.num : Int) else x.num

def isZero (x : Double) : Bool :=
  x.mantissa == 0

/-- Order by value; the two zeros are equal. -/
def compare (x y : Double) : Ordering :=
  Ord.compare (x.signedNum * y.den) (y.signedNum * x.den)

def mul? (x y : Double) : Option Double :=
  ofRatio? (x.negative != y.negative) (x.num * y.num) (x.den * y.den)

/-- The rounded quotient. Division by zero has no result. -/
def div? (x y : Double) : Option Double :=
  if y.isZero then none
  else ofRatio? (x.negative != y.negative) (x.num * y.den) (x.den * y.num)

def isInteger (x : Double) : Bool :=
  x.num % x.den == 0

/-- The integer part of the absolute value. -/
def floorAbs (x : Double) : Nat :=
  x.num / x.den

end Double

end SchemaCheck
