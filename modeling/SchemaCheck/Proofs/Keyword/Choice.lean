import Mathlib.Data.List.Sort
import SchemaCheck.Proofs.Keyword.Pair
import SchemaCheck.Proofs.Keyword.Union
import SchemaCheck.Proofs.Visit.Independence
import SchemaCheck.Proofs.Walk.Outcome

/-!
The order of the branches of a choice. `anyOf` stops at the first valid branch and so ignores
failures of later ones. The thorough variant applies every branch of the marked lists. A result of
the thorough variant is also the result of either variant on a permuted list. The union check of the
ban does not depend on the order, either.
-/

namespace SchemaCheck

open Walk
open Failure (Rated)
open Violation (Concur)

namespace Keyword

/-- `anyOf` which applies all branches of a marked list, also those after a valid one. -/
def thoroughAnyOf (marked : Json → Bool) : Keyword := fun w declared subject schema =>
  match declared, marked declared with
  | .array branches, true => do
    let results ← Walk.each (fun (branch, i) => w.descendBranch subject branch i) branches.zipIdx
    if results.any List.isEmpty then return []
    else return [noneValid subject results.flatten]
  | _, _ => anyOf w declared subject schema

/-- Without marked lists the variant is `anyOf` itself. -/
theorem thoroughAnyOf_never : thoroughAnyOf (fun _ => false) = anyOf := by
  funext w declared subject schema
  cases declared <;> rfl

theorem thoroughAnyOf_of_unmarked {marked : Json → Bool} {declared : Json}
    (h : ∀ branches, declared = .array branches → marked declared = false) (w : Walker)
    (subject : Subject) (schema : Json.Members) :
    thoroughAnyOf marked w declared subject schema = anyOf w declared subject schema := by
  unfold thoroughAnyOf
  split
  next branches hmarked => exact absurd hmarked (by rw [h branches rfl]; decide)
  next => rfl

theorem lawful_thoroughAnyOf (marked : Json → Bool) : (thoroughAnyOf marked).Lawful := by
  intro declared subject schema
  have hanyOf := (reaches_anyOf declared subject schema).client
  unfold thoroughAnyOf
  split
  next branches _ =>
    refine .bind (.each fun entry _ => (Client.branch subject entry.1).map _) fun results => ?_
    split
    · exact .pure []
    · exact .pure _
  next => exact hanyOf

variable {I J : Memory → Prop} {excused : Prop} {s t : WalkState} {w w' : Walker}
variable {subject : Subject} {schema schema' : Json.Members} {marked marked' : Json → Bool}

/-- The result of a search for the first valid branch, in terms of the results of the branches. -/
structure Searched (results : Json × Nat → Except Failure (List Violation))
    (entries : List (Json × Nat)) (result : Except Failure (Except (List Violation) Nat)) : Prop where
  found : ∀ i, result = .ok (.ok i) → ∃ entry ∈ entries, results entry = .ok []
  none : ∀ context, result = .ok (.error context) →
    ∀ entry ∈ entries, ∃ vs, vs ≠ [] ∧ results entry = .ok vs
  ends : (∀ entry ∈ entries, ∃ vs, results entry = .ok vs) → ∃ found, result = .ok found

/-- The search continues after an invalid branch. -/
theorem Searched.cons {results : Json × Nat → Except Failure (List Violation)} {entry : Json × Nat}
    {rest : List (Json × Nat)} {more : Except Failure (Except (List Violation) Nat)}
    {x : Walk (Except (List Violation) Nat)} {v : Violation} {vs : List Violation}
    (h : Searched results rest more) (hx : ComesTo I s more x) (hentry : results entry = .ok (v :: vs)) :
    ∃ result, ComesTo I s result (x >>= fun found => match found with
        | .ok i => return .ok i
        | .error context => return .error (v :: vs ++ context)) ∧
      Searched results (entry :: rest) result := by
  match more, hx, h with
  | .error e, hx, h =>
      refine ⟨.error e, hx.bind_error, nofun, nofun, fun hok => ?_⟩
      obtain ⟨found, hfound⟩ := h.ends fun other hother => hok other (List.mem_cons_of_mem _ hother)
      cases hfound
  | .ok (.ok i), hx, h =>
      refine ⟨.ok (.ok i), hx.bind_ok (.pure _), fun _ _ => ?_, nofun, fun _ => ⟨_, rfl⟩⟩
      obtain ⟨other, hother, hvalid⟩ := h.found i rfl
      exact ⟨other, List.mem_cons_of_mem _ hother, hvalid⟩
  | .ok (.error context), hx, h =>
      refine ⟨.ok (.error (v :: vs ++ context)), hx.bind_ok (.pure _), nofun, fun _ _ => ?_,
        fun _ => ⟨_, rfl⟩⟩
      exact List.forall_mem_cons.mpr ⟨⟨v :: vs, nofun, hentry⟩, h.none context rfl⟩

theorem searched_firstValid {apply : Json × Nat → Walk (List Violation)}
    {results : Json × Nat → Except Failure (List Violation)} (entries : List (Json × Nat))
    (h : ∀ entry ∈ entries, ComesTo I s (results entry) (apply entry)) :
    ∃ result, ComesTo I s result (firstValid apply entries) ∧ Searched results entries result := by
  induction entries with
  | nil => exact ⟨.ok (.error []), .pure _, nofun, fun _ _ => nofun, fun _ => ⟨_, rfl⟩⟩
  | cons entry rest ih =>
      obtain ⟨hentry, hrest⟩ := List.forall_mem_cons.mp h
      obtain ⟨more, hmore, hsearched⟩ := ih hrest
      cases hresult : results entry with
      | error e =>
          rw [hresult] at hentry
          refine ⟨.error e, hentry.bind_error, nofun, nofun, fun hok => ?_⟩
          obtain ⟨vs, hvs⟩ := hok entry List.mem_cons_self
          cases hresult.symm.trans hvs
      | ok vs =>
          rw [hresult] at hentry
          cases vs with
          | nil =>
              exact ⟨.ok (.ok entry.2), hentry.bind_ok (.pure _),
                fun _ _ => ⟨entry, List.mem_cons_self, hresult⟩, nofun, fun _ => ⟨_, rfl⟩⟩
          | cons v vs =>
              obtain ⟨result, hsearch, hcons⟩ := hsearched.cons hmore hresult
              exact ⟨result, hentry.bind_ok hsearch, hcons⟩

/-- The result of a choice, in terms of the results of its branches. -/
structure Chosen (results : Json → Except Failure (List Violation)) (branches : List Json)
    (result : Except Failure (List Violation)) : Prop where
  valid : result = .ok [] → ∃ branch ∈ branches, results branch = .ok []
  invalid : ∀ v vs, result = .ok (v :: vs) →
    ∀ branch ∈ branches, ∃ ws, ws ≠ [] ∧ results branch = .ok ws
  ends : (∀ branch ∈ branches, ∃ vs, results branch = .ok vs) → ∃ vs, result = .ok vs

section Chosen

variable {results results' : Json → Except Failure (List Violation)} {branches others : List Json}
variable {result result' : Except Failure (List Violation)}

/-- The result of a branch with its index prepended to the schema paths. -/
def resultAt (results : Json → Except Failure (List Violation)) (entry : Json × Nat) :
    Except Failure (List Violation) :=
  (results entry.1).map (List.map (·.nested none (some (.index entry.2))))

theorem comesTo_descendBranch
    (h : ∀ branch, ComesTo I s (results branch) (w.applyBranch subject branch))
    (entry : Json × Nat) :
    ComesTo I s (resultAt results entry) (w.descendBranch subject entry.1 entry.2) :=
  (h entry.1).map _

theorem resultAt_eq_ok {entry : Json × Nat} {vs : List Violation}
    (h : resultAt results entry = .ok vs) :
    ∃ ws, results entry.1 = .ok ws ∧ vs = ws.map (·.nested none (some (.index entry.2))) := by
  unfold resultAt at h
  cases hresult : results entry.1 with
  | error e =>
      rw [hresult] at h
      cases h
  | ok ws =>
      rw [hresult] at h
      cases h
      exact ⟨ws, rfl, rfl⟩

theorem exists_mem_zipIdx {branch : Json} (h : branch ∈ branches) :
    ∃ i, (branch, i) ∈ branches.zipIdx := by
  obtain ⟨i, hi⟩ := List.mem_iff_getElem?.mp h
  exact ⟨i, List.mem_zipIdx_iff_getElem?.mpr hi⟩

/-- Prepending indexes preserves success. -/
theorem forall_resultAt (hok : ∀ branch ∈ branches, ∃ vs, results branch = .ok vs) :
    ∀ entry ∈ branches.zipIdx, ∃ vs, resultAt results entry = .ok vs := by
  intro entry hentry
  obtain ⟨vs, hvs⟩ := hok entry.1 (List.fst_mem_of_mem_zipIdx hentry)
  exact ⟨_, by rw [resultAt, hvs]; rfl⟩

theorem chosen_anyOf (h : ∀ branch, ComesTo I s (results branch) (w.applyBranch subject branch))
    (branches : List Json) (schema : Json.Members) :
    ∃ result, ComesTo I s result (anyOf w (.array branches) subject schema) ∧
      Chosen results branches result := by
  obtain ⟨search, hsearch, hsearched⟩ :=
    searched_firstValid branches.zipIdx fun entry _ => comesTo_descendBranch h entry
  match search, hsearch, hsearched with
  | .error e, hsearch, hsearched =>
      refine ⟨.error e, hsearch.bind_error, nofun, nofun, fun hok => ?_⟩
      obtain ⟨found, hfound⟩ := hsearched.ends (forall_resultAt hok)
      cases hfound
  | .ok (.ok i), hsearch, hsearched =>
      refine ⟨.ok [], hsearch.bind_ok (.pure []), fun _ => ?_, nofun, fun _ => ⟨[], rfl⟩⟩
      obtain ⟨entry, hentry, hvalid⟩ := hsearched.found i rfl
      obtain ⟨ws, hws, hnil⟩ := resultAt_eq_ok hvalid
      obtain rfl := List.map_eq_nil_iff.mp hnil.symm
      exact ⟨entry.1, List.fst_mem_of_mem_zipIdx hentry, hws⟩
  | .ok (.error context), hsearch, hsearched =>
      refine ⟨.ok [noneValid subject context], hsearch.bind_ok (.pure _), nofun,
        fun _ _ _ branch hbranch => ?_, fun _ => ⟨_, rfl⟩⟩
      obtain ⟨i, hentry⟩ := exists_mem_zipIdx hbranch
      obtain ⟨vs, hne, hvs⟩ := hsearched.none context rfl _ hentry
      obtain ⟨ws, hws, rfl⟩ := resultAt_eq_ok hvs
      exact ⟨ws, fun hnil => hne (by rw [hnil]; rfl), hws⟩

/-- A thorough choice succeeds only if all branches do. -/
theorem chosen_of_marked (hmarked : marked (.array branches) = true)
    (h : ∀ branch, ComesTo I s (results branch) (w.applyBranch subject branch))
    (schema : Json.Members) :
    ∃ result, ComesTo I s result (thoroughAnyOf marked w (.array branches) subject schema) ∧
      Chosen results branches result ∧
      ((∃ vs, result = .ok vs) → ∀ branch ∈ branches, ∃ vs, results branch = .ok vs) := by
  obtain ⟨all, hall, hof, hends⟩ := ComesTo.each (l := branches.zipIdx)
    fun entry _ => comesTo_descendBranch h entry
  have hthorough : thoroughAnyOf marked w (.array branches) subject schema =
      Walk.each (fun entry => w.descendBranch subject entry.1 entry.2) branches.zipIdx >>=
        fun results => if results.any List.isEmpty then return [] else
          return [noneValid subject results.flatten] := by
    unfold thoroughAnyOf
    rw [hmarked]
  rw [hthorough]
  match all, hall, hof, hends with
  | .error e, hall, _, hends =>
      refine ⟨.error e, hall.bind_error, ⟨nofun, nofun, fun hok => ?_⟩, nofun⟩
      obtain ⟨found, hfound⟩ := hends (forall_resultAt hok)
      cases hfound
  | .ok lists, hall, hof, _ =>
      have hlists := hof lists rfl
      -- The result of each branch is one of the lists, with its place added in front.
      have hbranch (branch : Json) (hbranch : branch ∈ branches) :
          ∃ i ws, results branch = .ok ws ∧ ws.map (·.nested none (some (.index i))) ∈ lists := by
        obtain ⟨i, hentry⟩ := exists_mem_zipIdx hbranch
        obtain ⟨vs, hvs, hresult⟩ := hlists.of_mem _ hentry
        obtain ⟨ws, hws, rfl⟩ := resultAt_eq_ok hresult
        exact ⟨i, ws, hws, hvs⟩
      have hok : ∀ branch ∈ branches, ∃ vs, results branch = .ok vs := by
        intro branch hmem
        obtain ⟨-, ws, hws, -⟩ := hbranch branch hmem
        exact ⟨ws, hws⟩
      by_cases hsome : lists.any List.isEmpty
      · refine ⟨.ok [], hall.bind_ok ?_, ⟨fun _ => ?_, nofun, fun _ => ⟨[], rfl⟩⟩, fun _ => hok⟩
        · rw [if_pos hsome]
          exact .pure []
        · obtain ⟨vs, hvs, hempty⟩ := List.any_eq_true.mp hsome
          obtain ⟨entry, hentry, hresult⟩ := hlists.mem vs hvs
          obtain ⟨ws, hws, rfl⟩ := resultAt_eq_ok hresult
          rw [List.isEmpty_map, List.isEmpty_iff] at hempty
          exact ⟨entry.1, List.fst_mem_of_mem_zipIdx hentry, hempty ▸ hws⟩
      · refine ⟨.ok [noneValid subject lists.flatten], hall.bind_ok ?_,
          ⟨nofun, fun _ _ _ branch hmem => ?_, fun _ => ⟨_, rfl⟩⟩, fun _ => hok⟩
        · rw [if_neg hsome]
          exact .pure _
        · obtain ⟨i, ws, hws, hmem⟩ := hbranch branch hmem
          refine ⟨ws, ?_, hws⟩
          rintro rfl
          exact hsome (List.any_eq_true.mpr ⟨_, hmem, rfl⟩)

theorem chosen_thoroughAnyOf (marked : Json → Bool)
    (h : ∀ branch, ComesTo I s (results branch) (w.applyBranch subject branch))
    (branches : List Json) (schema : Json.Members) :
    ∃ result, ComesTo I s result (thoroughAnyOf marked w (.array branches) subject schema) ∧
      Chosen results branches result ∧
      (marked (.array branches) = true → (∃ vs, result = .ok vs) →
        ∀ branch ∈ branches, ∃ vs, results branch = .ok vs) := by
  by_cases hmarked : marked (.array branches) = true
  · obtain ⟨result, hresult, hchosen, hall⟩ := chosen_of_marked hmarked h schema
    exact ⟨result, hresult, hchosen, fun _ => hall⟩
  · obtain ⟨result, hresult, hchosen⟩ := chosen_anyOf h branches schema
    rw [thoroughAnyOf_of_unmarked fun _ _ => Bool.eq_false_iff.mpr hmarked]
    exact ⟨result, hresult, hchosen, fun htrue => absurd htrue hmarked⟩

/-- Two choices over the same set of branches have related results. -/
theorem Chosen.rated (h : Chosen results branches result) (h' : Chosen results' others result')
    (hsame : ∀ branch, branch ∈ branches ↔ branch ∈ others)
    (hstrict : excused ∨
      ((∃ vs, result = .ok vs) → ∀ branch ∈ branches, ∃ vs, results branch = .ok vs))
    (hrated : ∀ branch ∈ branches, Rated excused Concur (results branch) (results' branch)) :
    Rated excused Concur result result' := by
  have hboth {branch : Json} (hmem : branch ∈ branches) {vs ws : List Violation}
      (hvs : results branch = .ok vs) (hws : results' branch = .ok ws) : Concur vs ws := by
    rcases hrated branch hmem vs hvs with ⟨ws', hws', hconcur⟩ | ⟨-, e, he⟩
    · cases hws.symm.trans hws'
      exact hconcur
    · cases hws.symm.trans he
  intro vs hvs
  cases hresult : result' with
  | error e =>
      refine .inr ⟨?_, e, rfl⟩
      by_contra hexcused
      obtain ⟨ws, hws⟩ := h'.ends fun branch hmem => by
        obtain ⟨us, hus⟩ := hstrict.resolve_left hexcused ⟨vs, hvs⟩ branch ((hsame branch).mpr hmem)
        rcases hrated branch ((hsame branch).mpr hmem) us hus with ⟨ws, hws, -⟩ | ⟨hyes, -⟩
        · exact ⟨ws, hws⟩
        · exact absurd hyes hexcused
      cases hresult.symm.trans hws
  | ok ws =>
      refine .inl ⟨ws, rfl, ?_⟩
      match vs, ws with
      | [], [] => exact .refl []
      | _ :: _, _ :: _ => exact .of_cons
      | [], w :: ws =>
          obtain ⟨branch, hmem, hvalid⟩ := h.valid hvs
          obtain ⟨us, hne, hus⟩ := h'.invalid w ws hresult branch ((hsame branch).mp hmem)
          exact absurd ((hboth hmem hvalid hus).mp rfl) hne
      | v :: vs, [] =>
          obtain ⟨branch, hmem, hvalid⟩ := h'.valid hresult
          obtain ⟨us, hne, hus⟩ := h.invalid v vs hvs branch ((hsame branch).mpr hmem)
          exact absurd ((hboth ((hsame branch).mpr hmem) hus hvalid).mpr rfl) hne

end Chosen

/-- A choice and a choice over the same set of branches have related results, if the first one is
thorough or failures of the second one are excused. -/
theorem pairs_thoroughAnyOf {branches others : List Json}
    (hsame : ∀ branch, branch ∈ branches ↔ branch ∈ others)
    (hstrict : excused ∨ marked (.array branches) = true)
    (hleft : ∀ branch, ∃ result, ComesTo I s result (w.applyBranch subject branch))
    (hright : ∀ branch, ∃ result, ComesTo J t result (w'.applyBranch subject branch))
    (h : ∀ branch ∈ branches, Walk.Pairs (.results I J excused) s t Concur
      (w.applyBranch subject branch) (w'.applyBranch subject branch)) :
    Walk.Pairs (.results I J excused) s t Concur
      (thoroughAnyOf marked w (.array branches) subject schema)
      (thoroughAnyOf marked' w' (.array others) subject schema') := by
  intro m n hmem
  choose results hresults using hleft
  choose results' hresults' using hright
  have hrated (branch : Json) (hbranch : branch ∈ branches) :
      Rated excused Concur (results branch) (results' branch) :=
    (hresults branch).rated (hresults' branch) (h branch hbranch) hmem.1 hmem.2
  obtain ⟨first, hfirst, hchosen, hall⟩ := chosen_thoroughAnyOf marked hresults branches schema
  obtain ⟨second, hsecond, hchosen', -⟩ := chosen_thoroughAnyOf marked' hresults' others schema'
  exact hfirst.pairs hsecond (hchosen.rated hchosen' hsame (hstrict.imp_right hall) hrated) m n hmem

/-- For an unchanged list, it suffices that the first choice is thorough if the second one is. -/
theorem pairs_thoroughAnyOf_same {declared : Json} (hL : Regular (.results I J excused))
    (hmarks : marked' declared = true → marked declared = true)
    (hleft : ∀ branch, ∃ result, ComesTo I s result (w.applyBranch subject branch))
    (hright : ∀ branch, ∃ result, ComesTo J t result (w'.applyBranch subject branch))
    (hw : Walker.Pairs (.results I J excused) s t Concur id subject (Placed "anyOf" declared) w w') :
    Walk.Pairs (.results I J excused) s t Concur
      (thoroughAnyOf marked w declared subject schema)
      (thoroughAnyOf marked' w' declared subject schema') := by
  by_cases hmarked : ∃ branches, declared = .array branches ∧ marked declared = true
  · obtain ⟨branches, rfl, hmarked⟩ := hmarked
    exact pairs_thoroughAnyOf (fun _ => .rfl) (.inr hmarked) hleft hright
      fun branch hbranch => hw.branch branch ⟨hbranch, hbranch⟩
  · have hunmarked (branches : List Json) (harray : declared = .array branches) :
        marked declared = false := Bool.eq_false_iff.mpr fun htrue => hmarked ⟨branches, harray, htrue⟩
    rw [thoroughAnyOf_of_unmarked hunmarked, thoroughAnyOf_of_unmarked fun branches harray =>
      Bool.eq_false_iff.mpr fun htrue => hmarked ⟨branches, harray, hmarks htrue⟩]
    have halike : schema.Alike schema := fun _ _ => rfl
    exact pairs_of_alike rfl (by decide) (by decide) hL Violation.likeness_concur halike hw

end Keyword

namespace Registry

/-- The draft 4 registry with the thorough variant of `anyOf` for marked lists. -/
def thorough (marked : Json → Bool) : Registry :=
  draft4.register "anyOf" (Keyword.thoroughAnyOf marked)

theorem thorough_never : thorough (fun _ => false) = draft4 := by
  rw [thorough, Keyword.thoroughAnyOf_never]
  rfl

theorem lookup?_thorough (marked : Json → Bool) (name : String) :
    (thorough marked).lookup? name =
      if name = "anyOf" then some (Keyword.thoroughAnyOf marked) else draft4.lookup? name :=
  lookup?_register _ _ _ _

theorem lawful_thorough (marked : Json → Bool) : (thorough marked).Lawful :=
  Registry.Lawful.register (preset_ofDraft .draft4).lawful (Keyword.lawful_thoroughAnyOf marked) _

end Registry

namespace Ban

variable {I J : Memory → Prop} {excused : Prop} {s t : WalkState} {w w' : Walker}

/-- Two schemas declare the same property names and the same patterns. -/
def DeclareAlike (schema other : Json) : Prop :=
  ∀ name ∈ ["properties", "patternProperties"], declaredKeys name schema = declaredKeys name other

theorem nameSet_congr {names others : List String} (h : ∀ name, name ∈ names ↔ name ∈ others) :
    nameSet names = nameSet others :=
  List.Pairwise.eq_of_mem_iff (ascending_nameSet _) (ascending_nameSet _) fun name => by
    rw [mem_nameSet, mem_nameSet, h]

/-- The union checks of two lists with corresponding branches report the same names. -/
theorem pairs_onBranches {branches others : List Json} (hL : Regular (.results I J excused))
    (hsame : ∀ branch, branch ∈ branches ↔ branch ∈ others)
    (hleft : ∀ branch, ∃ result, ComesTo I s result (branchTarget w branch))
    (hright : ∀ branch, ∃ result, ComesTo J t result (branchTarget w' branch))
    (h : ∀ branch ∈ branches, Walk.Pairs (.results I J excused) s t DeclareAlike
      (branchTarget w branch) (branchTarget w' branch)) (effective : Bool) (subject : Subject) :
    Walk.Pairs (.results I J excused) s t Concur (onBranches w effective subject branches)
      (onBranches w' effective subject others) := by
  unfold onBranches
  cases candidates? subject.value with
  | none => exact .pure (.refl [])
  | some candidates =>
      refine (Pairs.each_of_same hsame hleft hright h).bind ?_
      rintro targets targets' ⟨hthere, hback⟩
      have hkeys (name : String) (hname : name ∈ ["properties", "patternProperties"]) :
          nameSet (targets.flatMap (declaredKeys name)) =
            nameSet (targets'.flatMap (declaredKeys name)) := by
        refine nameSet_congr fun key => ?_
        rw [List.mem_flatMap, List.mem_flatMap]
        constructor
        · rintro ⟨target, htarget, hkey⟩
          obtain ⟨target', htarget', halike⟩ := hthere target htarget
          exact ⟨target', htarget', halike name hname ▸ hkey⟩
        · rintro ⟨target', htarget', hkey⟩
          obtain ⟨target, htarget, halike⟩ := hback target' htarget'
          exact ⟨target, htarget, (halike name hname).symm ▸ hkey⟩
      rw [hkeys "properties" (by decide), hkeys "patternProperties" (by decide)]
      have hunion (patterns : List String) : Walk.Pairs (.results I J excused) s t (· = ·)
          (alternation patterns) (alternation patterns) :=
        ((program_alternation (r := .none subject) patterns).linked_none hL w w').pairs
      refine (hunion _).bind fun union _ heq => heq ▸ ?_
      dsimp only
      split
      · exact .pure (.refl [])
      · exact .pure .of_cons

end Ban

end SchemaCheck
