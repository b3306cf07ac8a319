import Mathlib.Data.String.Basic
import SchemaCheck.Ban
import SchemaCheck.Proofs.Walk.Answer

/-!
The ban on a union of branches. The names of a value are the keys of an object and the strings among
the elements of an array. Those that no branch declares are listed in one violation, in ascending
order.
-/

namespace SchemaCheck.Ban

open Walk

variable {name other : String} {names : List String}

theorem mem_insertName : name ∈ insertName other names ↔ name = other ∨ name ∈ names := by
  induction names with
  | nil => simp [insertName]
  | cons first rest ih =>
      unfold insertName
      split
      next => exact List.mem_cons
      next =>
        split
        next heq => simp [heq]
        next => simp only [List.mem_cons, ih, or_left_comm]

theorem ascending_insertName (h : names.Pairwise (· < ·)) (name : String) :
    (insertName name names).Pairwise (· < ·) := by
  induction names with
  | nil => exact List.pairwise_singleton _ _
  | cons first rest ih =>
      obtain ⟨hfirst, hrest⟩ := List.pairwise_cons.mp h
      unfold insertName
      split
      next hlt =>
        refine List.pairwise_cons.mpr ⟨fun later hlater => ?_, h⟩
        rcases List.mem_cons.mp hlater with rfl | hlater
        · exact hlt
        · exact hlt.trans (hfirst later hlater)
      next hnlt =>
        split
        next => exact h
        next hne =>
          refine List.pairwise_cons.mpr ⟨fun later hlater => ?_, ih hrest⟩
          rcases mem_insertName.mp hlater with rfl | hlater
          · exact lt_of_le_of_ne (not_lt.mp hnlt) (Ne.symm hne)
          · exact hfirst later hlater

theorem mem_nameSet : name ∈ nameSet names ↔ name ∈ names := by
  have hfold (set : List String) :
      name ∈ names.foldl (fun set name => insertName name set) set ↔
        name ∈ names ∨ name ∈ set := by
    induction names generalizing set with
    | nil => simp
    | cons first rest ih =>
        rw [List.foldl_cons, ih, mem_insertName, List.mem_cons, or_assoc, or_left_comm]
  simpa [nameSet] using hfold []

theorem ascending_nameSet (names : List String) : (nameSet names).Pairwise (· < ·) := by
  have hfold (set : List String) (h : set.Pairwise (· < ·)) :
      (names.foldl (fun set name => insertName name set) set).Pairwise (· < ·) := by
    induction names generalizing set with
    | nil => exact h
    | cons first rest ih => exact ih _ (ascending_insertName h first)
  exact hfold [] .nil

/-- The names that the check looks for: the keys of an object, or the strings in an array. -/
def asked (value : Json) : List String :=
  (candidates? value).getD []

/-- The names in single quotes, separated by commas. -/
def listed (names : List String) : String :=
  String.intercalate ", " (names.map fun name => "'" ++ name ++ "'")

/-- The text of the message about undeclared names. It also lists the patterns, if there are any. -/
def complaintText (names patterns : List String) (schema : Json) : String :=
  if patterns = [] then
    "banUnknownProperties (Additional properties are not allowed (" ++ listed names ++
      (if names.length = 1 then " was" else " were") ++ " unexpected))\nschema: " ++ schema.render
  else
    "banUnknownProperties: " ++ listed names ++ (if names.length = 1 then " does" else " do") ++
      " not match any of the regexes: " ++ listed patterns

theorem message_eq (names patterns : List String) (schema : Json) :
    message names patterns schema = complaintText names patterns schema := by
  unfold message complaintText Wording.wasWere Wording.doesDo
  rw [show Wording.quotedList = listed from rfl]
  by_cases hpatterns : patterns = []
  · rw [if_pos hpatterns, if_pos (List.isEmpty_iff.mpr hpatterns)]
    have hopening : keyword ++ " (Additional properties are not allowed (" =
        "banUnknownProperties (Additional properties are not allowed (" := by decide
    rw [hopening]
    split <;> simp only [String.append_assoc] <;> rfl
  · rw [if_neg hpatterns, if_neg (mt List.isEmpty_iff.mp hpatterns)]
    rw [show keyword ++ ": " = "banUnknownProperties: " by decide]
    split <;> simp only [String.append_assoc] <;> rfl

variable {stands : Json → Json → Prop} {branches targets : List Json}

end SchemaCheck.Ban
