import SchemaCheck.Proofs.Number.Quotient
import SchemaCheck.Proofs.Validator.History

/-!
Limits on counts by their numeric value. A declared number is a limit if its value is a natural
number, whichever way it is written. A value beyond the greatest limit is clamped to it, which
changes no comparison with a count below it.
-/

namespace SchemaCheck

namespace Double

variable {x : Double} {k : Nat}

theorem toRat_nonneg_iff (x : Double) : 0 ≤ x.toRat ↔ (x.isZero || !x.negative) = true := by
  have hsize : (0 : ℚ) ≤ x.num / x.den := div_nonneg (Nat.cast_nonneg _) (Nat.cast_nonneg _)
  by_cases hzero : x.toRat = 0
  · simp [hzero, (isZero_iff x).mpr hzero]
  · have hpos : (0 : ℚ) < x.num / x.den := by
      refine lt_of_le_of_ne hsize fun hnone => hzero ?_
      rw [toRat_eq_sign, ← hnone, mul_zero]
    have hnot : x.isZero = false := Bool.eq_false_iff.mpr (mt (isZero_iff x).mp hzero)
    rw [toRat_eq_sign, hnot, Bool.false_or]
    cases x.negative
    · simpa [sign] using hsize
    · simpa [sign] using hpos

/-- A double has a natural number as its value iff it is whole and not negative and that number is
its integer part. -/
theorem toRat_eq_natCast_iff :
    x.toRat = k ↔ (x.isZero || !x.negative) = true ∧ x.isInteger = true ∧ x.floorAbs = k := by
  have hden : (x.den : ℚ) ≠ 0 := mod_cast x.den_pos.ne'
  rw [← toRat_nonneg_iff]
  constructor
  · intro h
    have hnum : x.num = k * x.den := by
      have hfraction := abs_toRat_eq x
      rw [h, abs_of_nonneg (Nat.cast_nonneg k), eq_div_iff hden] at hfraction
      exact_mod_cast hfraction.symm
    refine ⟨h ▸ Nat.cast_nonneg k, (isInteger_iff x).mpr ⟨k, h⟩, ?_⟩
    rw [floorAbs, hnum, Nat.mul_div_cancel _ x.den_pos]
  · rintro ⟨hnonneg, hinteger, rfl⟩
    rw [isInteger, beq_iff_eq, ← Nat.dvd_iff_mod_eq_zero] at hinteger
    obtain ⟨k, hk⟩ := hinteger
    rw [← abs_of_nonneg hnonneg, abs_toRat_eq, floorAbs, hk, Nat.mul_div_cancel_left _ x.den_pos,
      Nat.cast_mul, mul_div_cancel_left₀ _ hden]

end Double

namespace Keyword

/-- A value is read as a limit iff it is a number whose value is a natural number; the limit is that
number, clamped. -/
theorem limit?_eq_some_iff {declared : Json} {limit : Nat} : limit? declared = some limit ↔
    ∃ (m : Json.Number) (k : Nat), declared = .number m ∧ m.toRat = k ∧
      limit = min k greatestLimit := by
  match declared with
  | .number (.integer n) =>
      have hvalue (k : Nat) : (Json.Number.integer n).toRat = k ↔ n.val = k := by
        rw [Json.Number.toRat, ← Int.cast_natCast, Int.cast_inj]
      have hupper := n.upper
      rw [limit?]
      constructor
      · intro h
        split at h
        next hpos =>
          cases h
          exact ⟨_, n.val.toNat, rfl, (hvalue _).mpr (by omega), by unfold greatestLimit; omega⟩
        next => cases h
      · rintro ⟨_, k, ⟨⟩, hk, rfl⟩
        have hk := (hvalue k).mp hk
        rw [if_pos (by omega), hk, Int.toNat_natCast, greatestLimit, min_eq_left (by omega)]
  | .number (.double x) =>
      rw [limit?]
      constructor
      · intro h
        split at h
        next hnat =>
          cases h
          rw [Bool.and_eq_true] at hnat
          exact ⟨_, _, rfl, Double.toRat_eq_natCast_iff.mpr ⟨hnat.1, hnat.2, rfl⟩, rfl⟩
        next => cases h
      · rintro ⟨_, k, ⟨⟩, hvalue, rfl⟩
        obtain ⟨hnonneg, hinteger, rfl⟩ := Double.toRat_eq_natCast_iff.mp hvalue
        rw [if_pos (Bool.and_eq_true _ _ ▸ ⟨hnonneg, hinteger⟩)]
  | .null | .bool _ | .string _ | .array _ | .object _ => simp [limit?]

variable (w : Walker) (declared : Json) (subject : Subject) (schema : Json.Members) (s : WalkState)

theorem limited_runs (count : Count) (fails : Nat → Nat → Bool) (complaint : String) {c : Nat}
    (hcount : count subject.value = some c) : ∃ found,
      limited count fails complaint w declared subject schema s = (.ok found, s) ∧
        (found ≠ [] ↔ ∃ limit, limit? declared = some limit ∧ fails c limit = true) := by
  unfold limited
  rw [hcount]
  cases limit? declared with
  | none => exact ⟨[], rfl, by simp⟩
  | some limit =>
      dsimp only
      split
      next h => exact ⟨_, rfl, by simp [h]⟩
      next h => exact ⟨[], rfl, by simpa using h⟩

/-- The three kinds of counts that limits are declared for. -/
inductive Measure where
  | items | length | properties

namespace Measure

def least : Measure → String
  | items => "minItems"
  | length => "minLength"
  | properties => "minProperties"

def greatest : Measure → String
  | items => "maxItems"
  | length => "maxLength"
  | properties => "maxProperties"

/-- The value is of the kind that the limits apply to, and `c` is its number of elements, characters
or members. -/
inductive Counts : Measure → Json → Nat → Prop
  | items (elements : List Json) : Counts items (.array elements) elements.length
  | length (text : String) : Counts length (.string text) text.toList.length
  | properties (members : Json.Members) : Counts properties (.object members) members.length

/-- The count function that the two keywords of the measure are built on. -/
def count : Measure → Count
  | items => elementCount
  | length => charCount
  | properties => memberCount

theorem Counts.count_eq {m : Measure} {value : Json} {c : Nat} (h : m.Counts value c) :
    m.count value = some c := by
  cases h with
  | items elements => rfl
  | length text => exact congrArg some String.length_toList.symm
  | properties members => rfl

end Measure

/-- The two keywords of a measure are the two comparisons with its count. The third draft has no
keywords for the number of members. -/
theorem lookup?_measure {draft : Draft} {m : Measure} (h : m = .properties → draft = .draft4) :
    ∃ few many, (Registry.ofDraft draft).lookup? m.least = some (limited m.count isBelow few) ∧
      (Registry.ofDraft draft).lookup? m.greatest = some (limited m.count isAbove many) := by
  cases m with
  | items => cases draft <;> exact ⟨_, _, rfl, rfl⟩
  | length => cases draft <;> exact ⟨_, _, rfl, rfl⟩
  | properties =>
      cases h rfl
      exact ⟨_, _, rfl, rfl⟩

/-- Limits are compared by their numeric values. On a value of their kind whose count is below the
greatest limit, the lower keyword rejects iff the count is less than the declared value and the
upper keyword iff it is greater, provided that the declared value is a number, integer or double,
whose value is a natural number. For any other declared value neither keyword rejects. -/
theorem limits_by_value {draft : Draft} {m : Measure} (hdraft : m = .properties → draft = .draft4)
    {c : Nat} (hcount : m.Counts subject.value c) (hc : c < 2 ^ 64 - 1) :
    ∃ least greatest, (Registry.ofDraft draft).lookup? m.least = some least ∧
      (Registry.ofDraft draft).lookup? m.greatest = some greatest ∧
      ∃ few many, least w declared subject schema s = (.ok few, s) ∧
        greatest w declared subject schema s = (.ok many, s) ∧
        (few ≠ [] ↔ ∃ (n : Json.Number) (limit : Nat), declared = .number n ∧ n.toRat = limit ∧
          c < limit) ∧
        (many ≠ [] ↔ ∃ (n : Json.Number) (limit : Nat), declared = .number n ∧ n.toRat = limit ∧
          limit < c) := by
  obtain ⟨_, _, hleast, hgreatest⟩ := lookup?_measure hdraft
  obtain ⟨few, hfew, hbelow⟩ := limited_runs w declared subject schema s _ isBelow _ hcount.count_eq
  obtain ⟨many, hmany, habove⟩ := limited_runs w declared subject schema s _ isAbove _ hcount.count_eq
  refine ⟨_, _, hleast, hgreatest, few, many, hfew, hmany, hbelow.trans ?_, habove.trans ?_⟩
  · simp only [limit?_eq_some_iff, isBelow, decide_eq_true_eq, greatestLimit]
    constructor
    · rintro ⟨_, ⟨n, k, hn, hk, rfl⟩, hlt⟩
      exact ⟨n, k, hn, hk, by omega⟩
    · rintro ⟨n, k, hn, hk, hlt⟩
      exact ⟨_, ⟨n, k, hn, hk, rfl⟩, by omega⟩
  · simp only [limit?_eq_some_iff, isAbove, decide_eq_true_eq, greatestLimit]
    constructor
    · rintro ⟨_, ⟨n, k, hn, hk, rfl⟩, hlt⟩
      exact ⟨n, k, hn, hk, by omega⟩
    · rintro ⟨n, k, hn, hk, hlt⟩
      exact ⟨_, ⟨n, k, hn, hk, rfl⟩, by omega⟩

/-- Two characters against the doubles `2 ^ 64` and `-0.0`, three elements against an integer, and
an object against a string, which is no limit. -/
theorem limits_by_value_doubles :
    let large : Double := ⟨false, 0x10000000000000, 12, by decide⟩
    let zero : Double := Double.zero true
    let two : Integer := ⟨2, by decide, by decide⟩
    let text : Subject := ⟨.string "äö", []⟩
    let list : Subject := ⟨.array [.null, .null, .null], []⟩
    let v := (Options.standard .offline).build .null Validator.defaultBase
    let w : Walker := ⟨v.setting.resolver, v.setting.findsCycles, v.setting.visit 1⟩
    let s := v.start v.config v.memory
    (∃ found, minLength w (.number (.double large)) text [] s = (.ok found, s) ∧ found ≠ []) ∧
      (∃ found, maxLength w (.number (.double zero)) text [] s = (.ok found, s) ∧ found ≠ []) ∧
      (∃ found, maxItems w (.number (.integer two)) list [] s = (.ok found, s) ∧ found ≠ []) ∧
      minProperties w (.string "1") ⟨.object [], []⟩ [] s = (.ok [], s) := by
  intro large zero two text list v w s
  have hlarge : large.toRat = (2 ^ 64 : Nat) := by
    rw [Double.toRat_eq]
    norm_num [large, Double.unit]
  have hzero : zero.toRat = (0 : Nat) := by
    rw [Nat.cast_zero]
    exact (Double.isZero_iff _).mp rfl
  have htwo : (Json.Number.integer two).toRat = (2 : Nat) := by
    rw [Json.Number.toRat]
    norm_num [two]
  have hlength : Measure.Counts .length text.value 2 := .length "äö"
  have hitems : Measure.Counts .items list.value 3 := .items _
  have hmembers : Measure.Counts .properties (.object []) 0 := .properties []
  obtain ⟨least, -, hleast, -, few, -, hfew, -, hbelow, -⟩ :=
    limits_by_value w (.number (.double large)) text [] s (fun _ => rfl) hlength (by decide)
  obtain ⟨-, greatest, -, hgreatest, -, many, -, hmany, -, habove⟩ :=
    limits_by_value w (.number (.double zero)) text [] s (fun _ => rfl) hlength (by decide)
  obtain ⟨-, ceiling, -, hceiling, -, excess, -, hexcess, -, hmore⟩ :=
    limits_by_value w (.number (.integer two)) list [] s (fun _ => rfl) hitems (by decide)
  obtain ⟨floor, -, hfloor, -, silent, -, hsilent, -, hfewer, -⟩ :=
    limits_by_value w (.string "1") ⟨.object [], []⟩ [] s (fun _ => rfl) hmembers (by decide)
  cases hleast
  cases hgreatest
  cases hceiling
  cases hfloor
  refine ⟨⟨few, hfew, hbelow.mpr ⟨_, _, rfl, hlarge, by decide⟩⟩,
    ⟨many, hmany, habove.mpr ⟨_, _, rfl, hzero, by decide⟩⟩,
    ⟨excess, hexcess, hmore.mpr ⟨_, _, rfl, htwo, by decide⟩⟩, ?_⟩
  have hempty : silent = [] := by
    by_contra hsome
    obtain ⟨_, _, hnumber, -⟩ := hfewer.mp hsome
    cases hnumber
  exact hempty ▸ hsilent

end Keyword

end SchemaCheck
