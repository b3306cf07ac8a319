import SchemaCheck.Proofs.Number.Order
import SchemaCheck.Proofs.Validator.History

/-!
Numeric bounds compare the rational values of the instance and the limit, except that an integer is
equal to the double it rounds to.
-/

namespace SchemaCheck

namespace Keyword

variable (w : Walker) (n limit : Json.Number) (place : Location) (schema : Json.Members)
  (s : WalkState)

theorem minimum_runs : ∃ found,
    minimum w (.number limit) ⟨.number n, place⟩ schema s = (.ok found, s) ∧
      (found ≠ [] ↔ n.compare limit = .lt ∨
        flag "exclusiveMinimum" schema ∧ n.compare limit = .eq) := by
  unfold minimum
  dsimp only
  split
  next h => exact ⟨_, rfl, by simpa using h⟩
  next h => exact ⟨[], rfl, by simpa using h⟩

theorem maximum_runs : ∃ found,
    maximum w (.number limit) ⟨.number n, place⟩ schema s = (.ok found, s) ∧
      (found ≠ [] ↔ n.compare limit = .gt ∨
        flag "exclusiveMaximum" schema ∧ n.compare limit = .eq) := by
  unfold maximum
  dsimp only
  split
  next h => exact ⟨_, rfl, by simpa using h⟩
  next h => exact ⟨[], rfl, by simpa using h⟩

/-- Bounds have a result for every two numbers. Unless one of the two is an integer and the other
one the double that it rounds to, the lower bound rejects exactly the lesser values and the upper
bound exactly the greater ones, and an exclusive bound also rejects the limit. An integer and the
double it rounds to are treated as equal; below `2 ^ 53` they are. -/
theorem bounds_by_value :
    ∃ below above : List Violation,
      minimum w (.number limit) ⟨.number n, place⟩ schema s = (.ok below, s) ∧
      maximum w (.number limit) ⟨.number n, place⟩ schema s = (.ok above, s) ∧
      (¬ n.Rounded limit →
        (below ≠ [] ↔ n.toRat < limit.toRat ∨
          flag "exclusiveMinimum" schema ∧ n.toRat = limit.toRat) ∧
        (above ≠ [] ↔ limit.toRat < n.toRat ∨
          flag "exclusiveMaximum" schema ∧ n.toRat = limit.toRat)) ∧
      (n.Rounded limit →
        (below ≠ [] ↔ flag "exclusiveMinimum" schema) ∧
        (above ≠ [] ↔ flag "exclusiveMaximum" schema) ∧
        (|n.toRat| < 2 ^ 53 → n.toRat = limit.toRat)) := by
  obtain ⟨below, hbelow, hfails⟩ := minimum_runs w n limit place schema s
  obtain ⟨above, habove, hexceeds⟩ := maximum_runs w n limit place schema s
  refine ⟨below, above, hbelow, habove, fun h => ?_, fun h => ?_⟩
  · rw [hfails, hexceeds, Json.Number.compare_of_not_rounded h, compare_lt_iff_lt,
      compare_gt_iff_gt, compare_eq_iff_eq]
    exact ⟨Iff.rfl, Iff.rfl⟩
  · rw [hfails, hexceeds, Json.Number.compare_of_rounded h]
    exact ⟨by simp, by simp, Json.Number.toRat_eq_of_rounded h⟩

end Keyword

/-- The double nearest to a limit beyond `2 ^ 53` is admitted although it is less than the limit. -/
theorem Options.admits_below_minimum :
    let limit : Json.Number := .integer ⟨9007199254740993, by decide, by decide⟩
    let n : Json.Number := .double ⟨false, 0x10000000000000, 1, by decide⟩
    let v := (standard .offline).build (.object [("minimum", .number limit)]) Validator.defaultBase
    n.toRat < limit.toRat ∧
      ((v.violations (.number n) v.config).outcome v.memory).map List.length = .ok 0 := by
  intro limit n v
  refine ⟨?_, by decide +kernel⟩
  have hvalue : n.toRat = 0x10000000000000 * Double.unit 1 := by
    simp [n, Json.Number.toRat, Double.toRat_eq]
  rw [hvalue]
  norm_num [limit, Json.Number.toRat, Double.unit]

end SchemaCheck
