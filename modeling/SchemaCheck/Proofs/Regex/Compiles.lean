import Mathlib.Data.List.Forall2
import SchemaCheck.Regex.Parser

/-!
Lists of patterns that are compiled one by one.
-/

namespace SchemaCheck.Regex

variable {patterns : List String} {regexes : List Regex}

/-- Each pattern compiles to the expression at its index. -/
def Compiles (patterns : List String) (regexes : List Regex) : Prop :=
  List.Forall₂ (fun pattern r => parse? pattern = some r) patterns regexes

theorem matches_each_singleton (pattern : String) :
    Option.Rel (fun union regexes => ∀ text, union.isMatch text = regexes.any (·.isMatch text))
      (parse? (String.intercalate "|" [pattern])) ([pattern].mapM parse?) := by
  show Option.Rel _ (parse? pattern) _
  cases hparse : parse? pattern with
  | none => simp [hparse]
  | some r => simp [hparse]

/-- One of the expressions matches iff one of the patterns does. -/
theorem Compiles.any_isMatch_iff (h : Compiles patterns regexes) (text : String) :
    regexes.any (·.isMatch text) = true ↔
      ∃ pattern ∈ patterns, ∃ r, parse? pattern = some r ∧ r.isMatch text = true := by
  induction h with
  | nil => simp
  | cons hr _ ih => simp [hr, ih]

theorem Compiles.isSome (h : Compiles patterns regexes) :
    ∀ pattern ∈ patterns, (parse? pattern).isSome := by
  induction h with
  | nil => exact List.forall_mem_nil _
  | cons hr _ ih => exact List.forall_mem_cons.mpr ⟨Option.isSome_of_eq_some hr, ih⟩

end SchemaCheck.Regex
