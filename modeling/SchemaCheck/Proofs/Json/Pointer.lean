import Mathlib.Data.Nat.Digits.Defs
import Mathlib.Tactic.IntervalCases
import SchemaCheck.Json.Pointer
import SchemaCheck.Location

/-!
JSON pointers written from locations, and the round trip. Escaping removes slashes from tokens, so
the slashes of the pointer separate the tokens; indexes are written in decimal without leading
zeros.
-/

namespace SchemaCheck.Json.Pointer

/-- The token of a step. -/
def ofStep (step : Step) : List Char :=
  escapeToken step.write.toList

/-- The pointer to a location. -/
def ofLocation (l : Location) : List Char :=
  l.flatMap fun step => '/' :: ofStep step

theorem slash_not_mem_escapeToken (s : List Char) : '/' ∉ escapeToken s := by
  induction s with
  | nil => exact List.not_mem_nil
  | cons c rest ih =>
      rw [escapeToken]
      split
      next => simp [ih]
      next =>
        split
        next => simp [ih]
        next h => simp [ih, Ne.symm h]

theorem slash_not_mem_ofStep (step : Step) : '/' ∉ ofStep step :=
  slash_not_mem_escapeToken _

theorem escapeToken_eq_nil {s : List Char} : escapeToken s = [] ↔ s = [] := by
  cases s with
  | nil => simp [escapeToken]
  | cons c rest =>
      rw [escapeToken]
      split
      next => simp
      next => split <;> simp

/-! ### Tokens -/

theorem tokens_of_slash_not_mem {token : List Char} (h : '/' ∉ token) : tokens token = [token] := by
  induction token with
  | nil => rfl
  | cons c rest ih =>
      obtain ⟨hc, hrest⟩ := not_or.mp (mt List.mem_cons.mpr h)
      rw [tokens, if_neg (Ne.symm hc), ih hrest]

theorem tokens_append_slash {token : List Char} (h : '/' ∉ token) (rest : List Char) :
    tokens (token ++ '/' :: rest) = token :: tokens rest := by
  induction token with
  | nil => rw [List.nil_append, tokens, if_pos rfl]
  | cons c token ih =>
      obtain ⟨hc, htoken⟩ := not_or.mp (mt List.mem_cons.mpr h)
      rw [List.cons_append, tokens, if_neg (Ne.symm hc), ih htoken]

/-- Splitting a pointer without its first slash yields one token per step. -/
theorem tokens_ofStep_append (step : Step) (rest : Location) :
    tokens (ofStep step ++ ofLocation rest) = (step :: rest).map ofStep := by
  induction rest generalizing step with
  | nil =>
      rw [ofLocation, List.flatMap_nil, List.append_nil,
        tokens_of_slash_not_mem (slash_not_mem_ofStep _)]
      rfl
  | cons next rest ih =>
      have hcons : ofLocation (next :: rest) = '/' :: (ofStep next ++ ofLocation rest) := by
        rw [ofLocation, List.flatMap_cons, List.cons_append]
        rfl
      rw [hcons, tokens_append_slash (slash_not_mem_ofStep _), ih]
      rfl

/-! ### Indexes -/

theorem head?_toDigits {n : Nat} (h : 0 < n) : (Nat.toDigits 10 n).head? ≠ some '0' := by
  induction n using Nat.strong_induction_on with
  | _ n ih =>
      rcases Nat.lt_or_ge n 10 with hlt | hge
      · rw [Nat.toDigits_of_lt_base hlt]
        interval_cases n <;> decide
      · have hprefix := ih (n / 10) (by omega) (by omega)
        rw [Nat.toDigits_of_base_le (by decide) hge, List.head?_append]
        cases hdigits : Nat.toDigits 10 (n / 10) with
        | nil => exact absurd hdigits Nat.toDigits_ne_nil
        | cons c rest => rwa [hdigits] at hprefix

theorem index?_toDigits (n : Nat) : index? (Nat.toDigits 10 n) = some n := by
  have hdigits : (Nat.toDigits 10 n).all Char.isDigit = true :=
    List.all_eq_true.mpr fun c hc => Nat.isDigit_of_mem_toDigits (by decide) (by decide) hc
  have hvalue : (Nat.toDigits 10 n).foldl (fun n c => n * 10 + (c.toNat - '0'.toNat)) 0 = n := by
    simpa only [Nat.ofDigitChars, Nat.mul_comm 10] using Nat.ofDigitChars_ten_toDigits (n := n)
  unfold index?
  split
  next hnil => exact absurd hnil Nat.toDigits_ne_nil
  next hzero =>
    -- Two digits make a positive number, which does not begin with a zero.
    rcases Nat.eq_zero_or_pos n with rfl | hpos
    · cases hzero
    · exact absurd (by rw [hzero]; rfl) (head?_toDigits hpos)
  next => rw [if_pos hdigits, hvalue]

/-!
### Locations
-/

theorem enter?_ofStep {step : Step} {j part : Json} (h : step.into? j = some part) :
    enter? (unescapeToken (ofStep step)) j = some part := by
  rw [ofStep, unescapeToken_escapeToken]
  cases step with
  | key name =>
      cases j with
      | object members =>
          rw [enter?, Step.write, String.ofList_toList]
          exact h
      | _ => cases h
  | index i =>
      cases j with
      | array items =>
          have hdigits : (Step.index i).write.toList = Nat.toDigits 10 i := Nat.toList_repr
          rw [enter?, hdigits, index?_toDigits]
          exact h
      | _ => cases h

/-- The tokens of a location lead to the part at the location. -/
theorem walk?_ofLocation {l : Location} {j part : Json} (h : l.follow? j = some part) :
    walk? (l.map ofStep) j = some part := by
  induction l generalizing j with
  | nil => exact h
  | cons step rest ih =>
      obtain ⟨inner, hinner, hrest⟩ := Option.bind_eq_some_iff.mp h
      rw [List.map_cons, walk?, enter?_ofStep hinner]
      exact ih hrest

end SchemaCheck.Json.Pointer
