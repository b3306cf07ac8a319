import SchemaCheck.Proofs.Violation.Text

/-!
Reports and the order in which violations are found. A report sorts violations by their full texts
and renders each of them as a block, which is another text. It does not depend on the order in which
the violations are found iff violations with the same full text have the same message and location.
Of two violations with the same full text, the one found first comes first.
-/

namespace SchemaCheck.Report

open Violation

variable {v w : Violation} {vs ws : List Violation}

theorem size_sorted (vs : List Violation) : (sorted vs).size = vs.length := by
  simp [sorted, size]

theorem verdict_sorted (vs : List Violation) :
    (sorted vs).verdict =
      if vs = [] then .ok () else .error ⟨vs.length, (sorted vs).display⟩ := by
  have hsize := size_sorted vs
  have hempty : (sorted vs).isEmpty = true ↔ vs = [] := by
    rw [isEmpty, List.isEmpty_iff_length_eq_zero, ← List.length_eq_zero_iff, ← hsize, size]
  unfold verdict
  simp only [hempty, hsize]

section Sorting

/-- The order of a report. -/
def before (v w : Violation) : Bool :=
  v.display ≤ w.display

theorem before_trans (u v w : Violation) (huv : before u v = true) (hvw : before v w = true) :
    before u w = true :=
  decide_eq_true ((of_decide_eq_true huv).trans (of_decide_eq_true hvw))

theorem before_total (v w : Violation) : (before v w || before w v) = true := by
  simpa [before] using le_total v.display w.display

theorem violations_sorted (vs : List Violation) : (sorted vs).violations = vs.mergeSort before := by
  have hsorted := List.map_mergeSort (r := before)
    (s := fun a b : String × Violation => decide (a.1 ≤ b.1)) (f := fun v => (v.display, v))
    (l := vs) fun _ _ _ _ => rfl
  rw [sorted, ← hsorted, List.map_map]
  exact List.map_id' _

theorem perm_sorted (vs : List Violation) : (sorted vs).violations.Perm vs := by
  rw [violations_sorted]
  exact List.mergeSort_perm ..

theorem pairwise_sorted (vs : List Violation) :
    (sorted vs).violations.Pairwise fun v w => v.display ≤ w.display := by
  rw [violations_sorted]
  exact (List.pairwise_mergeSort before_trans before_total vs).imp of_decide_eq_true

/-- The violation found first is sorted in front of all violations with the same or a greater text,
and behind all lesser ones. -/
theorem violations_sorted_cons (v : Violation) (vs : List Violation) :
    (sorted (v :: vs)).violations =
      (sorted vs).violations.takeWhile (!before v ·) ++
        v :: (sorted vs).violations.dropWhile (!before v ·) := by
  obtain ⟨s, t, hcons, htail, hs⟩ := List.mergeSort_cons before_trans before_total v vs
  have ht : ∀ w ∈ t, before v w = true := by
    have hpairwise := List.pairwise_mergeSort before_trans before_total (v :: vs)
    rw [hcons] at hpairwise
    exact (List.pairwise_cons.mp (List.pairwise_append.mp hpairwise).2.1).1
  rw [violations_sorted, violations_sorted, hcons, htail, List.takeWhile_append_of_pos hs,
    List.dropWhile_append_of_pos hs]
  cases t with
  | nil => simp
  | cons w t => simp [ht w List.mem_cons_self]

theorem before_congr (h : v.display = w.display) : before v = before w := by
  funext u
  rw [before, before, h]

/-- Two violations with the same full text that are found first keep their order. -/
theorem violations_sorted_cons_cons (h : v.display = w.display) (vs : List Violation) :
    (sorted (v :: w :: vs)).violations =
      (sorted vs).violations.takeWhile (!before w ·) ++
        v :: w :: (sorted vs).violations.dropWhile (!before w ·) := by
  have hpos : ∀ u ∈ (sorted vs).violations.takeWhile (!before w ·), (!before w u) = true :=
    fun u hu => List.mem_takeWhile_imp (p := (!before w ·)) hu
  have hself : before w w = true := by simp [before]
  rw [violations_sorted_cons v, violations_sorted_cons w, before_congr h,
    List.takeWhile_append_of_pos hpos, List.dropWhile_append_of_pos hpos]
  simp [hself]

end Sorting

/-- The report is the same for every order in which the violations are found. -/
def OrderFree (vs : List Violation) : Prop :=
  ∀ ws, ws.Perm vs →
    (sorted ws).display = (sorted vs).display ∧ (sorted ws).verdict = (sorted vs).verdict

theorem orderFree_of_display (h : ∀ ws, ws.Perm vs → (sorted ws).display = (sorted vs).display) :
    OrderFree vs := by
  intro ws hperm
  have hnil : ws = [] ↔ vs = [] := by
    rw [← List.length_eq_zero_iff, hperm.length_eq, List.length_eq_zero_iff]
  simp only [verdict_sorted, h ws hperm, hperm.length_eq, hnil, and_self]

/-- A function that is constant on violations with the same full text has the same values along the
sorted list for every order of finding. -/
theorem map_sorted_eq {α : Type} (f : Violation → α) (hperm : ws.Perm vs)
    (h : ∀ v ∈ vs, ∀ w ∈ vs, v.display = w.display → f v = f w) :
    (sorted ws).violations.map f = (sorted vs).violations.map f := by
  let pair (v : Violation) : String × α := (v.display, f v)
  have hpairwise (vs : List Violation) :
      ((sorted vs).violations.map pair).Pairwise fun a b => a.1 ≤ b.1 :=
    List.pairwise_map.mpr (pairwise_sorted vs)
  have hsame : (sorted ws).violations.Perm (sorted vs).violations :=
    (perm_sorted ws).trans (hperm.trans (perm_sorted vs).symm)
  have hpairs : (sorted ws).violations.map pair = (sorted vs).violations.map pair := by
    refine List.Perm.eq_of_pairwise ?_ (hpairwise ws) (hpairwise vs) (hsame.map pair)
    intro a b ha hb hle hge
    obtain ⟨v, hv, rfl⟩ := List.mem_map.mp ha
    obtain ⟨w, hw, rfl⟩ := List.mem_map.mp hb
    have hdisplay : v.display = w.display := le_antisymm hle hge
    have hv : v ∈ vs := ((perm_sorted ws).trans hperm).mem_iff.mp hv
    have hw : w ∈ vs := (perm_sorted vs).mem_iff.mp hw
    exact Prod.ext hdisplay (h v hv w hw hdisplay)
  simpa [pair, Function.comp_def] using congrArg (List.map Prod.snd) hpairs

theorem exists_perm_cons_cons (hv : v ∈ vs) (hw : w ∈ vs) (hne : w ≠ v) :
    ∃ rest, (v :: w :: rest).Perm vs := by
  obtain ⟨s, t, rfl⟩ := List.append_of_mem hv
  have hw : w ∈ s ++ t := by simpa [hne] using hw
  obtain ⟨s', t', hsplit⟩ := List.append_of_mem hw
  refine ⟨s' ++ t', (List.Perm.cons v ?_).trans List.perm_middle.symm⟩
  rw [hsplit]
  exact List.perm_middle.symm

/-- If two violations with the same full text are found first and the report is the same for both
orders, their blocks commute. -/
theorem block_comm_of_display (hdisplay : v.display = w.display)
    (h : (sorted (v :: w :: vs)).display = (sorted (w :: v :: vs)).display) :
    block v ++ block w = block w ++ block v := by
  have htext := congrArg String.toList h
  rw [display, display, violations_sorted_cons_cons hdisplay,
    violations_sorted_cons_cons hdisplay.symm, before_congr hdisplay] at htext
  simp only [String.toList_join, List.map_append, List.map_cons, List.flatMap_append,
    List.flatMap_cons] at htext
  have hblocks := List.append_cancel_left htext
  rw [← List.append_assoc, ← List.append_assoc] at hblocks
  refine String.toList_inj.mp ?_
  rw [String.toList_append, String.toList_append, List.append_cancel_right hblocks]

section Found

variable (hkeyed : ∀ v ∈ vs, v.keyword.isSome)

include hkeyed

theorem orderFree_iff : OrderFree vs ↔
    ∀ v ∈ vs, ∀ w ∈ vs, v.display = w.display → v.message = w.message ∧ v.path = w.path := by
  constructor
  · intro h v hv w hw hdisplay
    rcases eq_or_ne w v with rfl | hne
    · exact ⟨rfl, rfl⟩
    · obtain ⟨rest, hperm⟩ := exists_perm_cons_cons hv hw hne
      have hother : (w :: v :: rest).Perm vs := (List.Perm.swap ..).trans hperm
      refine (block_comm_iff (hkeyed v hv) (hkeyed w hw) hdisplay).mp ?_
      exact block_comm_of_display hdisplay ((h _ hperm).1.trans (h _ hother).1.symm)
  · intro h
    refine orderFree_of_display fun ws hperm => ?_
    rw [display, display, map_sorted_eq block hperm]
    intro v hv w hw hdisplay
    obtain ⟨hmessage, hpath⟩ := h v hv w hw hdisplay
    exact block_eq_of_display (hkeyed v hv) (hkeyed w hw) hdisplay hmessage hpath

/-- A report contains the violations that were found, sorted by their full texts, and the list of
these texts is the same for every order of finding. Violations with the same full text have the same
value. The report as a whole is the same for every order iff violations with the same full text also
have the same message and location; in particular this is the case if all of them are legible. -/
theorem found_in_any_order :
    (∀ ws, ws.Perm vs → (sorted ws).violations.Perm ws ∧
      (sorted ws).violations.Pairwise (fun v w => v.display ≤ w.display) ∧
      (sorted ws).violations.map Violation.display = (sorted vs).violations.map Violation.display ∧
      (sorted ws).size = vs.length) ∧
    (∀ v ∈ vs, ∀ w ∈ vs, v.display = w.display → v.shown.render = w.shown.render) ∧
    (OrderFree vs ↔
      ∀ v ∈ vs, ∀ w ∈ vs, v.display = w.display → v.message = w.message ∧ v.path = w.path) ∧
    ((∀ v ∈ vs, v.Legible) → OrderFree vs) := by
  refine ⟨fun ws hperm => ⟨perm_sorted ws, pairwise_sorted ws, ?_, ?_⟩, ?_,
    orderFree_iff hkeyed, ?_⟩
  · exact map_sorted_eq _ hperm fun _ _ _ _ h => h
  · rw [size_sorted, hperm.length_eq]
  · intro v hv w hw hdisplay
    exact (split_of_display (hkeyed v hv) (hkeyed w hw) hdisplay).1
  · intro hlegible
    refine (orderFree_iff hkeyed).mpr fun v hv w hw hdisplay => ?_
    exact (hlegible v hv).eq_of_display (hlegible w hw) (hkeyed v hv) (hkeyed w hw) hdisplay

end Found

/-- Two violations with the same full text, and two places in the schema that blocks do not show. -/
theorem found_in_any_order_tied :
    let near : Violation := ⟨"1 is not of type 'string'", some "type", some (.string "string"),
      some (.number (.integer ⟨1, by decide, by decide⟩)),
      some (.object [("type", .string "string")]), [.key "a']['b"], [.key "it's", .index 0], []⟩
    let far : Violation := { near with schemaPath := [.key "a", .key "b"] }
    (∀ v ∈ [near, far], v.keyword.isSome) ∧ (∀ v ∈ [near, far], v.Legible) ∧
      near.display = far.display ∧ OrderFree [near, far] := by
  intro near far
  have hkeyed : ∀ v ∈ [near, far], v.keyword.isSome := by simp [near, far]
  have hkey : ∀ name, Step.key name ∈ near.path → name = "it's" := by simp [near]
  have hnear : near.Legible :=
    { message := by decide +kernel
      path := fun name hname => hkey name hname ▸ by decide +kernel
      key := fun name hname => hkey name hname ▸ by decide +kernel }
  have hlegible : ∀ v ∈ [near, far], v.Legible :=
    List.forall_mem_cons.mpr ⟨hnear, List.forall_mem_singleton.mpr
      { message := hnear.message, path := hnear.path, key := hnear.key }⟩
  exact ⟨hkeyed, hlegible, by decide +kernel, (found_in_any_order hkeyed).2.2.2 hlegible⟩

/-- A key that contains brackets, and the two keys that its text can also be read as, have the same
full text. -/
theorem order_of_bracketed_keys :
    let merged : Violation := ⟨"1 is not of type 'string'", some "type", some (.string "string"),
      some (.number (.integer ⟨1, by decide, by decide⟩)),
      some (.object [("type", .string "string")]), [.key "type"], [.key "a']['b"], []⟩
    let apart : Violation := { merged with path := [.key "a", .key "b"] }
    merged.keyword.isSome ∧ apart.keyword.isSome ∧ [apart, merged].Perm [merged, apart] ∧
      merged.display = apart.display ∧
      (sorted [apart, merged]).display ≠ (sorted [merged, apart]).display := by
  intro merged apart
  have hdisplay : merged.display = apart.display := by decide +kernel
  refine ⟨rfl, rfl, .swap .., hdisplay, fun h => ?_⟩
  have hblocks := block_comm_of_display hdisplay h.symm
  exact absurd hblocks (by decide +kernel)

end SchemaCheck.Report
