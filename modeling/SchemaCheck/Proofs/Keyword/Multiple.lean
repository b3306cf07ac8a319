import SchemaCheck.Proofs.Number.Quotient
import SchemaCheck.Proofs.Validator.History

/-!
Divisibility of integers. Two integers of one range are divided exactly. A negative integer and one
beyond the signed range are both rounded to doubles first, and their rounded quotient decides.
-/

namespace SchemaCheck

namespace Keyword

open Json.Number

variable {n d : Integer}

theorem isMultiple_alongside (hd : d.val ≠ 0)
    (hoverflow : ¬ (n.val = -0x8000000000000000 ∧ d.val = -1)) (h : Alongside n d) :
    isMultiple (.integer n) (.integer d) = .ok (decide (d.val ∣ n.val)) := by
  unfold isMultiple
  rcases meet_of_alongside h with ⟨hn, hm⟩ | ⟨hs, hn, hm⟩
  · simp only [hn, hm, if_neg hd, if_neg hoverflow, Int.dvd_iff_emod_eq_zero]
  · have hdvd : (decide (d.val = 0) || decide (n.val % d.val = 0)) = decide (d.val ∣ n.val) := by
      simp only [hd, decide_false, Bool.false_or, Int.dvd_iff_emod_eq_zero]
    rcases hs with hs | hs
    · simp only [hs, hn, hm, hdvd]
    · cases hsigned : (integer n).signed? <;> simp only [hs, hn, hm, hdvd]

theorem isMultiple_apart (hd : d.val ≠ 0) (h : ¬ Alongside n d) {q : Double}
    (hq : n.toDouble.div? d.toDouble = some q) :
    isMultiple (.integer n) (.integer d) = .ok q.isInteger := by
  have hzero : d.toDouble.isZero = false := by
    have hone := Integer.one_le_abs_toDouble hd
    refine Bool.eq_false_iff.mpr fun hzero => ?_
    rw [(Double.isZero_iff _).mp hzero, abs_zero] at hone
    linarith
  have hquotient : (Json.Number.integer n).toDouble.div? (Json.Number.integer d).toDouble =
      some q := hq
  have hdivisor : (Json.Number.integer d).toDouble.isZero = false := hzero
  unfold isMultiple
  obtain ⟨hsigned, hunsigned⟩ := apart_of_not_alongside h
  rcases hsigned with hs | hs <;> rcases hunsigned with hu | hu <;>
    simp [hs, hu, hquotient, hdivisor]

/-- The least integer beyond the signed range is the value of a double. -/
theorem exists_double_top : ∃ top : Double, top.toRat = ((0x8000000000000000 : Int) : ℚ) := by
  refine ⟨⟨false, 0x10000000000000, 11, by decide⟩, ?_⟩
  rw [Double.toRat_eq]
  norm_num [Double.unit]

/-- Of two integers of different ranges, the one with the greater double does not divide the other
one. -/
theorem not_dvd_of_lt (h : ¬ Alongside n d) (hlt : |n.toDouble.toRat| < |d.toDouble.toRat|) :
    ¬ d.val ∣ n.val := by
  intro hdvd
  obtain ⟨top, htop⟩ := exists_double_top
  have hn := n.lower
  have hm := d.lower
  refine hlt.not_ge (le_trans (b := top.toRat) ?_ ?_)
  · have hle : |d.val| ≤ 0x8000000000000000 := by
      rw [abs_le]
      rcases opposite_of_not_alongside h with ⟨hneg, hpos⟩ | ⟨hpos, hneg⟩
      · have := Int.le_of_dvd (by omega) (Int.dvd_neg.mpr hdvd)
        omega
      · omega
    refine d.nearest_toDouble.abs_toRat_le ?_
    rw [htop]
    exact_mod_cast hle
  · rcases opposite_of_not_alongside h with ⟨hneg, hpos⟩ | ⟨hpos, hneg⟩
    · have hle := Int.le_of_dvd (by omega) (Int.dvd_neg.mpr hdvd)
      have hbelow := n.nearest_toDouble.le_of_le (y := top.neg) (by
        rw [Double.toRat_neg, htop]
        exact_mod_cast (by omega : n.val ≤ -0x8000000000000000))
      rw [Double.toRat_neg] at hbelow
      exact le_abs.mpr (.inr (by linarith))
    · refine le_abs.mpr (.inl (n.nearest_toDouble.ge_of_ge ?_))
      rw [htop]
      exact_mod_cast hpos

/-- The check is exact if the divisor has the greater double. -/
theorem isMultiple_lesser (hd : d.val ≠ 0) (h : ¬ Alongside n d)
    (hlt : |n.toDouble.toRat| < |d.toDouble.toRat|) :
    isMultiple (.integer n) (.integer d) = .ok (decide (d.val ∣ n.val)) := by
  have hn : n.val ≠ 0 := by
    rcases opposite_of_not_alongside h with ⟨hn, -⟩ | ⟨hn, -⟩ <;> omega
  have hone := Integer.one_le_abs_toDouble hd
  have hpos := zero_lt_one.trans_le hone
  have hbound := d.abs_toDouble_le_unit.trans (Double.unit_le_unit (by norm_num : (64 : Int) ≤ 65))
  have hsize : |n.toDouble.toRat / d.toDouble.toRat| < Double.unit 1023 := by
    rw [abs_div]
    exact ((div_lt_one hpos).mpr hlt).trans_le (one_le_zpow₀ one_le_two (by norm_num))
  obtain ⟨q, hq, -⟩ := Double.exists_div? (abs_pos.mp hpos) hsize
  have hnot := Double.not_isInteger_of_lt hlt hone
    (Double.unit_le_abs_div (Integer.one_le_abs_toDouble hn) hpos hbound) hq
  rw [isMultiple_apart hd h hq, hnot, decide_eq_false (not_dvd_of_lt h hlt)]

/-- If both integers are doubles, the check is exact iff their quotient in lowest terms has a
numerator of at most 53 bits. -/
theorem isMultiple_doubles (hd : d.val ≠ 0) (h : ¬ Alongside n d)
    (hn : n.toDouble.toRat = n.val) (hm : d.toDouble.toRat = d.val)
    (hbits : n.val.natAbs ≤ 0x20000000000000 * Int.gcd n.val d.val) :
    isMultiple (.integer n) (.integer d) = .ok (decide (d.val ∣ n.val)) := by
  have hbound := d.abs_le_unit.trans (Double.unit_le_unit (by norm_num : (64 : Int) ≤ 65))
  obtain ⟨q, hq, hiff⟩ := Double.exists_div?_iff_dvd hn hm hd hbound hbits
  rw [isMultiple_apart hd h hq]
  exact congrArg _ (Bool.eq_iff_iff.mpr (hiff.trans decide_eq_true_iff.symm))

/-- Divisibility of integers is exact for all signs and ranges with two exceptions. The least signed
integer is not divided by minus one. A negative integer and one beyond the signed range are divided
as the doubles that they are rounded to; the result is exact if the divisor becomes the greater
double, or if both are doubles and their quotient in lowest terms has a numerator of at most 53
bits. -/
theorem multiples_of_integers (w : Walker) (n d : Integer) (place : Location)
    (schema : Json.Members) (s : WalkState) (hd : d.val ≠ 0)
    (hoverflow : ¬ (n.val = -0x8000000000000000 ∧ d.val = -1))
    (hcase : Alongside n d ∨ |n.toDouble.toRat| < |d.toDouble.toRat| ∨
      n.toDouble.toRat = n.val ∧ d.toDouble.toRat = d.val ∧
        n.val.natAbs ≤ 2 ^ 53 * Int.gcd n.val d.val) :
    (Registry.ofDraft .draft4).lookup? "multipleOf" = some multipleOf ∧
      (Registry.ofDraft .draft3).lookup? "divisibleBy" = some multipleOf ∧
      ∃ found, multipleOf w (.number (.integer d)) ⟨.number (.integer n), place⟩ schema s =
          (.ok found, s) ∧
        (found = [] ↔ d.val ∣ n.val) := by
  refine ⟨rfl, rfl, ?_⟩
  have hmultiple : isMultiple (.integer n) (.integer d) = .ok (decide (d.val ∣ n.val)) := by
    by_cases h : Alongside n d
    · exact isMultiple_alongside hd hoverflow h
    · rcases hcase.resolve_left h with hlt | ⟨hn, hm, hbits⟩
      · exact isMultiple_lesser hd h hlt
      · exact isMultiple_doubles hd h hn hm hbits
  unfold multipleOf
  dsimp only
  rw [hmultiple]
  by_cases hdvd : d.val ∣ n.val
  · rw [decide_eq_true hdvd]
    exact ⟨[], rfl, by simp [hdvd]⟩
  · rw [decide_eq_false hdvd]
    exact ⟨_, rfl, by simp [hdvd]⟩

/-- An integer beyond the signed range against a negative one, as dividend and as divisor. -/
theorem multiples_of_integers_apart :
    let beyond : Integer := ⟨9223372036854777856, by decide, by decide⟩
    let negative : Integer := ⟨-34816, by decide, by decide⟩
    let v := (Options.standard .offline).build .null Validator.defaultBase
    let w : Walker := ⟨v.setting.resolver, v.setting.findsCycles, v.setting.visit 1⟩
    let s := v.start v.config v.memory
    multipleOf w (.number (.integer negative)) ⟨.number (.integer beyond), []⟩ [] s = (.ok [], s) ∧
      ∃ found, multipleOf w (.number (.integer beyond)) ⟨.number (.integer negative), []⟩ [] s =
        (.ok found, s) ∧ found ≠ [] := by
  intro beyond negative v w s
  have hbeyond : beyond.toDouble = ⟨false, 0x10000000000001, 11, by decide⟩ := by decide +kernel
  have hvalue : beyond.toDouble.toRat = beyond.val := by
    rw [hbeyond, Double.toRat_eq]
    norm_num [beyond, Double.unit]
  have hnegative : negative.toDouble.toRat = negative.val := Integer.toRat_toDouble (by decide)
  have hlt : |negative.toDouble.toRat| < |beyond.toDouble.toRat| := by
    rw [hvalue, hnegative]
    norm_num [beyond, negative]
  obtain ⟨-, -, accepted, haccepted, hdvd⟩ := multiples_of_integers w beyond negative [] [] s
    (by decide) (by decide) (.inr (.inr ⟨hvalue, hnegative, by decide +kernel⟩))
  obtain ⟨-, -, rejected, hrejected, hnot⟩ := multiples_of_integers w negative beyond [] [] s
    (by decide) (by decide) (.inr (.inl hlt))
  refine ⟨?_, rejected, hrejected, mt hnot.mp (by decide)⟩
  rw [haccepted, hdvd.mpr (by decide)]

end Keyword

/-- Minus two is accepted as a divisor of an odd integer beyond the signed range. -/
theorem Options.admits_odd :
    let n : Integer := ⟨9223372036854775809, by decide, by decide⟩
    let d : Integer := ⟨-2, by decide, by decide⟩
    let schema : Json := .object [("multipleOf", .number (.integer d))]
    let v := (standard .offline).build schema Validator.defaultBase
    ¬ d.val ∣ n.val ∧
      ((v.violations (.number (.integer n)) v.config).outcome v.memory).map List.length =
        .ok 0 := by
  intro n d schema v
  exact ⟨by decide, by decide +kernel⟩

end SchemaCheck
