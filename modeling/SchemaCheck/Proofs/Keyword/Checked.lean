import SchemaCheck.Proofs.Walk.Result
import SchemaCheck.Registry

/-!
Keywords with their preconditions checked. Where a keyword drops elements from a list, accesses an
element, takes a remainder, or relies on a limit of 64 bits, its checked form tests the precondition
and ends with a given fault if it does not hold. The checked forms are equal to the keywords, so the
faults never occur.
-/

namespace SchemaCheck

namespace Walk

/-- The value of an option, or `fault`. -/
def require {α : Type} (fault : Failure) : Option α → Walk α
  | some a => pure a
  | none => fail fault

end Walk

namespace Keyword

open Walk

/-- The elements from index `i` on; none if `i` is beyond the end. -/
def tail? {α : Type} (l : List α) (i : Nat) : Option (List α) :=
  if i ≤ l.length then some (l.drop i) else none

theorem tail?_of_le {α : Type} {l : List α} {i : Nat} (h : i ≤ l.length) :
    tail? l i = some (l.drop i) :=
  if_pos h

/-- The remainder of two integers of 64 bits. Division by zero is the fault; the least integer by
minus one overflows. -/
def remainder (fault : Failure) (a b : Int) : Except Failure Int :=
  if b = 0 then .error fault
  else if a = -0x8000000000000000 ∧ b = -1 then .error .remainderOverflow
  else .ok (a % b)

/-- The number, if it fits in 64 bits. -/
def word? (n : Nat) : Option Nat :=
  if n ≤ greatestLimit then some n else none

namespace Checked

/-- The extra elements are the tail after the positions of `items`, which exists if there are more
elements than positions. -/
def additionalItems (fault : Failure) : Keyword := fun w declared subject schema =>
  match declared, subject.value, Json.Members.find? "items" schema with
  | .bool false, .array elements, some (.array positional) =>
    if positional.length < elements.length then do
      let extras ← require fault (tail? elements positional.length)
      return [.ofMessage ("Additional items are not allowed (" ++
        String.intercalate ", " (extras.map Json.render) ++ " " ++
        Wording.wasWere extras.length ++ " unexpected)")]
    else return []
  | _, _, _ => Keyword.additionalItems w declared subject schema

/-- Each element is compared with the tail after it. -/
def hasRepeats (fault : Failure) (elements : List Json) : List (Json × Nat) → Walk Bool
  | [] => return false
  | (element, i) :: rest => do
    let later ← require fault (tail? elements (i + 1))
    if later.any element.equal then return true else hasRepeats fault elements rest

def uniqueItems (fault : Failure) : Keyword := fun _ declared subject _ =>
  match declared, subject.value with
  | .bool true, .array elements => do
    if ← hasRepeats fault elements elements.zipIdx then
      return [.ofMessage (subject.value.render ++ " has non-unique elements")]
    else return []
  | _, _ => return []

/-- The schemas after the first valid one are a tail of the list, and the first valid one is an
element of it. -/
def oneOf (fault : Failure) : Keyword := fun w declared subject _ =>
  match declared with
  | .array branches => do
    match ← firstValid (fun (branch, i) => w.descendAt subject branch none (some (.index i)))
        branches.zipIdx with
    | .error context => return [noneValid subject context]
    | .ok first =>
      let later ← require fault (tail? branches (first + 1))
      let others ← validAmong w subject later
      if others.isEmpty then return []
      else
        let branch ← require fault branches[first]?
        return [.ofMessage (subject.value.render ++ " is valid under each of " ++
          String.intercalate ", " ((others ++ [branch]).map Json.render))]
  | _ => return []

/-- Integers are divided only if the divisor is not zero. -/
def isMultiple (fault : Failure) (n d : Json.Number) : Except Failure Bool :=
  match n.signed?, d.signed? with
  | some a, some b => if b = 0 then .ok true else (remainder fault a b).map fun r => r = 0
  | _, _ =>
    match n.unsigned?, d.unsigned? with
    | some a, some b => if b = 0 then .ok true else (remainder fault a b).map fun r => r = 0
    | _, _ => Keyword.isMultiple n d

def multipleOf (fault : Failure) : Keyword := fun _ declared subject _ =>
  match declared, subject.value with
  | .number d, .number n =>
    match isMultiple fault n d with
    | .ok true => return []
    | .ok false =>
      return [.ofMessage (subject.value.render ++ " is not a multiple of " ++ declared.render)]
    | .error e => fail e
  | _, _ => return []

def limited (fault : Failure) (count : Count) (fails : Nat → Nat → Bool) (complaint : String) :
    Keyword := fun _ declared subject _ =>
  match count subject.value, limit? declared with
  | some n, some limit => do
    let limit ← require fault (word? limit)
    if fails n limit then return [.ofMessage (subject.value.render ++ complaint)] else return []
  | _, _ => return []

variable (fault : Failure)

theorem additionalItems_eq : additionalItems fault = Keyword.additionalItems := by
  funext w declared subject schema
  unfold additionalItems
  split
  next value elements positional hvalue hitems =>
    unfold Keyword.additionalItems
    rw [hvalue, hitems]
    by_cases hextra : positional.length < elements.length
    · have hextras : (elements.drop positional.length).isEmpty = false := by
        simpa [List.isEmpty_eq_false_iff, List.drop_eq_nil_iff] using hextra
      rw [if_pos hextra, tail?_of_le (Nat.le_of_lt hextra)]
      simp only [hextras]
      rfl
    · have hnone : elements.drop positional.length = [] :=
        List.drop_eq_nil_of_le (Nat.le_of_not_lt hextra)
      rw [if_neg hextra]
      simp only [hnone]
      rfl
  next => rfl

/-- The tails after elements exist from any index on. -/
theorem hasRepeats_eq {elements rest : List Json} {i : Nat} (h : elements.drop i = rest) :
    hasRepeats fault elements (rest.zipIdx i) = (return Keyword.hasRepeats rest) := by
  induction rest generalizing i with
  | nil => rfl
  | cons element rest ih =>
      have hle : i + 1 ≤ elements.length := by
        have hlength := congrArg List.length h
        rw [List.length_drop, List.length_cons] at hlength
        omega
      have hrest : elements.drop (i + 1) = rest := by
        rw [← List.drop_drop, h]
        rfl
      have hlater : require fault (tail? elements (i + 1)) = (return rest : Walk (List Json)) := by
        rw [tail?_of_le hle, hrest]
        rfl
      rw [List.zipIdx_cons, hasRepeats, hlater, Keyword.hasRepeats, ih hrest]
      show (if rest.any element.equal then return true else return Keyword.hasRepeats rest) =
        (return _ : Walk Bool)
      cases rest.any element.equal <;> rfl

theorem uniqueItems_eq : uniqueItems fault = Keyword.uniqueItems := by
  funext w declared subject schema
  unfold uniqueItems Keyword.uniqueItems
  generalize subject.value = value
  cases declared with
  | bool wanted =>
      cases wanted with
      | true =>
          cases value with
          | array elements =>
              have hrepeats := hasRepeats_eq fault (show elements.drop 0 = elements from rfl)
              dsimp only
              rw [hrepeats]
              rfl
          | _ => rfl
      | false => rfl
  | _ => rfl

/-- The number returned by the search is an index of the list. -/
theorem ensures_firstValid_mem {apply : Json × Nat → Walk (List Violation)}
    (branches : List (Json × Nat)) :
    Ensures (fun found => ∀ i, found = .ok i → ∃ branch, (branch, i) ∈ branches)
      (firstValid apply branches) := by
  induction branches with
  | nil => exact .pure fun i hi => nomatch hi
  | cons branch rest ih =>
      refine .after fun violations => ?_
      split
      · refine .pure fun i hi => ⟨branch.1, ?_⟩
        cases hi
        exact List.mem_cons_self
      · refine .bind ih fun found hfound => ?_
        split
        next i =>
          refine .pure fun j hj => ?_
          obtain ⟨other, hmem⟩ := hfound j hj
          exact ⟨other, List.mem_cons_of_mem _ hmem⟩
        next => exact .pure fun i hi => nomatch hi

theorem oneOf_eq : oneOf fault = Keyword.oneOf := by
  funext w declared subject schema
  unfold oneOf Keyword.oneOf
  cases declared with
  | array branches =>
      refine (ensures_firstValid_mem branches.zipIdx).bind_congr fun found hfound => ?_
      cases found with
      | error context => rfl
      | ok first =>
          obtain ⟨branch, hmem⟩ := hfound first rfl
          have hbranch : branches[first]? = some branch := List.mem_zipIdx_iff_getElem?.mp hmem
          obtain ⟨hfirst, -⟩ := List.getElem?_eq_some_iff.mp hbranch
          have hall (others : List Json) :
              others ++ (branches.drop first).take 1 = others ++ [branch] := by
            rw [List.take_one, List.head?_drop, hbranch]
            rfl
          simp only [tail?_of_le (Nat.succ_le_of_lt hfirst), hbranch, hall]
          rfl
  | _ => rfl

theorem nonneg_of_unsigned? {n : Json.Number} {a : Int} (h : n.unsigned? = some a) : 0 ≤ a := by
  unfold Json.Number.unsigned? at h
  grind

/-- The test for a zero remainder. -/
theorem remainder_map {a b : Int} (hb : b ≠ 0) :
    (remainder fault a b).map (fun r => decide (r = 0)) =
      if a = -0x8000000000000000 ∧ b = -1 then .error .remainderOverflow else .ok (a % b = 0) := by
  unfold remainder
  rw [if_neg hb]
  split <;> rfl

/-- No integer is divided by zero, and no unsigned integer is the least signed one. -/
theorem isMultiple_eq (n d : Json.Number) : isMultiple fault n d = Keyword.isMultiple n d := by
  unfold isMultiple
  split
  next a b hn hd =>
    simp only [Keyword.isMultiple, hn, hd]
    by_cases hb : b = 0
    · rw [if_pos hb, if_pos hb]
    · rw [if_neg hb, if_neg hb, remainder_map fault hb]
  next hsigned =>
    split
    next a b hn hd =>
      have hnonneg := nonneg_of_unsigned? hn
      have hdivided : (if b = 0 then .ok true else
          (remainder fault a b).map fun r => decide (r = 0)) = .ok (b = 0 || a % b = 0) := by
        by_cases hb : b = 0
        · simp [hb]
        · have hleast : ¬ (a = -0x8000000000000000 ∧ b = -1) := by omega
          rw [if_neg hb, remainder_map fault hb, if_neg hleast]
          simp [hb]
      rw [hdivided]
      unfold Keyword.isMultiple
      split
      next hn' hd' => exact (hsigned _ _ hn' hd').elim
      next => simp only [hn, hd]
    next => rfl

theorem multipleOf_eq : multipleOf fault = Keyword.multipleOf := by
  funext w declared subject schema
  unfold multipleOf
  simp only [isMultiple_eq]
  rfl

/-- Every limit fits in 64 bits. -/
theorem limit?_le {declared : Json} {limit : Nat} (h : limit? declared = some limit) :
    limit ≤ greatestLimit := by
  unfold limit? at h
  split at h
  next n =>
    have hupper := n.upper
    split at h
    · obtain rfl := Option.some.inj h
      unfold greatestLimit
      omega
    · cases h
  next x =>
    split at h
    · obtain rfl := Option.some.inj h
      exact Nat.min_le_right _ _
    · cases h
  · cases h

theorem limited_eq (count : Count) (fails : Nat → Nat → Bool) (complaint : String) :
    limited fault count fails complaint = Keyword.limited count fails complaint := by
  funext w declared subject schema
  unfold limited Keyword.limited
  cases count subject.value with
  | none => rfl
  | some n =>
      cases hlimit : limit? declared with
      | none => rfl
      | some limit =>
          dsimp only
          rw [word?, if_pos (limit?_le hlimit)]
          rfl

end Checked

end Keyword

namespace Registry

open Keyword.Checked in
/-- The checked forms of keywords common to both drafts. -/
def checkedShared (fault : Failure) : List (String × Keyword) := [
  ("additionalItems", additionalItems fault),
  ("maxItems", limited fault Keyword.elementCount Keyword.isAbove " is too long"),
  ("maxLength", limited fault Keyword.charCount Keyword.isAbove " is too long"),
  ("minItems", limited fault Keyword.elementCount Keyword.isBelow " is too short"),
  ("minLength", limited fault Keyword.charCount Keyword.isBelow " is too short"),
  ("uniqueItems", uniqueItems fault)]

open Keyword.Checked in
/-- The checked forms of keywords of one draft. -/
def checkedOnly (fault : Failure) : Draft → List (String × Keyword)
  | .draft3 => [("divisibleBy", multipleOf fault)]
  | .draft4 => [
    ("maxProperties", limited fault Keyword.memberCount Keyword.isAbove " has too many properties"),
    ("minProperties",
      limited fault Keyword.memberCount Keyword.isBelow " does not have enough properties"),
    ("multipleOf", multipleOf fault),
    ("oneOf", oneOf fault)]

/-- The registry of a draft with checked forms in place of its keywords, where they exist. -/
def checked (fault : Failure) (draft : Draft) : Registry :=
  (checkedShared fault ++ checkedOnly fault draft).foldl (fun r entry => r.register entry.1 entry.2)
    (ofDraft draft)

open Keyword.Checked in
/-- The checked registry is the registry, whatever the fault. -/
theorem checked_eq (fault : Failure) (draft : Draft) : checked fault draft = ofDraft draft := by
  unfold checked checkedShared checkedOnly
  simp only [additionalItems_eq, limited_eq, uniqueItems_eq, multipleOf_eq, oneOf_eq]
  cases draft <;> rfl

end Registry

end SchemaCheck
