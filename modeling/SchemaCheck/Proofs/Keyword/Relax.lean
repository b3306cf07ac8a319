import SchemaCheck.Proofs.Keyword.Manner
import SchemaCheck.Proofs.Walk.Relax

/-!
Keywords under a more lenient walker. Suppose that on the schemas which the keyword applies, the
second walker finds no violation whenever the first one finds none, and returns a result whenever
the first one does. Then the keyword itself is more lenient by the second walker in the same sense.
This holds for all keywords except for the three negations, which reject an instance because a
schema accepts it.
-/

namespace SchemaCheck

open Walk Violation

/-- The second walker is more lenient than the first one, both on the given schemas and on the
subject. -/
structure Walker.Relaxes (I J : Memory → Prop) (s t : WalkState) (subject : Subject)
    (schemas : Json → Prop) (w w' : Walker) : Prop where
  descend : ∀ inner sub, subject.Near inner → schemas sub →
    Walk.Relaxes I J s t Clears (w.descend inner sub) (w'.descend inner sub)
  branch : ∀ sub, schemas sub →
    Walk.Relaxes I J s t Clears (w.applyBranch subject sub) (w'.applyBranch subject sub)

namespace Walker.Relaxes

variable {I J : Memory → Prop} {s t : WalkState} {subject inner : Subject}
variable {schemas : Json → Prop} {w w' : Walker} {sub : Json}

theorem mono {others : Json → Prop} (hw : Walker.Relaxes I J s t subject schemas w w')
    (h : ∀ sub, others sub → schemas sub) : Walker.Relaxes I J s t subject others w w' where
  descend inner sub hnear hsub := hw.descend inner sub hnear (h sub hsub)
  branch sub hsub := hw.branch sub (h sub hsub)

theorem descendAt (hw : Walker.Relaxes I J s t subject schemas w w') (hnear : subject.Near inner)
    (hsub : schemas sub) (path schemaPath : Option Step) :
    Walk.Relaxes I J s t Clears (w.descendAt inner sub path schemaPath)
      (w'.descendAt inner sub path schemaPath) :=
  (hw.descend inner sub hnear hsub).map fun _ _ hclears => hclears.map

theorem descendBranch (hw : Walker.Relaxes I J s t subject schemas w w') (hsub : schemas sub)
    (i : Nat) :
    Walk.Relaxes I J s t Clears (w.descendBranch subject sub i)
      (w'.descendBranch subject sub i) :=
  (hw.branch sub hsub).map fun _ _ hclears => hclears.map

end Walker.Relaxes

namespace Keyword

/-- The keyword of that name is more lenient by any more lenient walker. -/
def Relaxes (name : String) (k : Keyword) : Prop :=
  ∀ {I J : Memory → Prop} {s t : WalkState} {w w' : Walker},
    Memory.Versed I → Memory.Versed J →
    ∀ (declared : Json) (subject : Subject) (schema : Json.Members),
      Walker.Relaxes I J s t subject (· ∈ applied name declared) w w' →
      Walk.Relaxes I J s t Clears (k w declared subject schema) (k w' declared subject schema)

variable {I J : Memory → Prop} {s t : WalkState} {w w' : Walker} {subject : Subject}

/-- A keyword that applies no schemas has the same result by both walkers. -/
theorem relaxes_of_alone {name : String} {k : Keyword} (hk : Alone k) : Relaxes name k := by
  intro I J s t w w' hI hJ declared subject schema hw
  exact ((hk declared subject schema).relaxes hI hJ w w').mono fun _ _ heq => heq ▸ .refl _

theorem relaxes_items : Relaxes "items" items := by
  intro I J s t w w' hI hJ declared subject schema hw
  unfold items
  cases hvalue : subject.value with
  | array elements =>
      cases declared with
      | array schemas =>
          refine .collect fun entry hentry => ?_
          obtain ⟨⟨element, i⟩, sub⟩ := entry
          obtain ⟨hitem, hsub⟩ := List.of_mem_zip hentry
          exact hw.descendAt (.item hvalue (List.mem_zipIdx_iff_getElem?.mp hitem)) hsub _ _
      | object members =>
          refine .collect fun entry hentry => ?_
          exact hw.descendAt (.item hvalue (List.mem_zipIdx_iff_getElem?.mp hentry))
            (List.mem_singleton_self (Json.object members)) _ _
      | _ => exact .pure (.refl [])
  | _ => exact .pure (.refl [])

theorem relaxes_additionalItems : Relaxes "additionalItems" additionalItems := by
  intro I J s t w w' hI hJ declared subject schema hw
  unfold additionalItems
  cases hvalue : subject.value with
  | array elements =>
      split
      next positional heq _ =>
        cases heq
        dsimp only
        cases declared with
        | object members =>
            refine .collect fun entry hentry => ?_
            exact hw.descendAt (.item hvalue (getElem?_of_mem_zipIdx_drop hentry))
              (List.mem_singleton_self (Json.object members)) _ _
        | bool allowed =>
            cases allowed with
            | true => exact .pure (.refl [])
            | false =>
                dsimp only
                split
                · exact .pure (.refl [])
                · exact .pure (Clears.refl _)
        | _ => exact .pure (.refl [])
      next => exact .pure (.refl [])
  | _ => exact .pure (.refl [])

theorem relaxes_properties : Relaxes "properties" properties := by
  intro I J s t w w' hI hJ declared subject schema hw
  unfold properties
  cases declared with
  | object declared =>
      cases hvalue : subject.value with
      | object object =>
          refine .collect fun entry hentry => ?_
          dsimp only
          cases hfind : Json.Members.find? entry.1 object with
          | none => exact .pure (.refl [])
          | some value =>
              exact hw.descendAt (.member hvalue (Json.Members.mem_of_find? hfind))
                (Json.mem_values hentry) _ _
      | _ => exact .pure (.refl [])
  | _ => exact .pure (.refl [])

theorem relaxes_patternProperties : Relaxes "patternProperties" patternProperties := by
  intro I J s t w w' hI hJ declared subject schema hw
  unfold patternProperties
  cases declared with
  | object patterns =>
      cases hvalue : subject.value with
      | object object =>
          refine .collect fun entry hentry => ?_
          refine (relaxes_regex hI hJ entry.1).bind fun r _ heq => heq ▸ ?_
          refine .collect fun member hmember => ?_
          dsimp only
          split
          · exact hw.descendAt (.member hvalue hmember) (Json.mem_values hentry) _ _
          · exact .pure (.refl [])
      | _ => exact .pure (.refl [])
  | _ => exact .pure (.refl [])

theorem relaxes_additionalProperties : Relaxes "additionalProperties" additionalProperties := by
  intro I J s t w w' hI hJ declared subject schema hw
  unfold additionalProperties
  cases hvalue : subject.value with
  | object object =>
      have hkeys : Walk.Relaxes I J s t (· = ·) (additionalKeys object schema)
          (additionalKeys object schema) :=
        (program_additionalKeys (r := .none subject) object schema).relaxes hI hJ w w'
      refine hkeys.bind fun extras _ heq => heq ▸ ?_
      cases declared with
      | object members =>
          refine .collect fun key _ => ?_
          cases hfind : Json.Members.find? key object with
          | none => exact .pure (.refl [])
          | some value =>
              exact hw.descendAt (.member hvalue (Json.Members.mem_of_find? hfind))
                (List.mem_singleton_self (Json.object members)) _ _
      | bool allowed =>
          cases allowed with
          | true => exact .pure (.refl [])
          | false =>
              dsimp only
              split
              · exact .pure (.refl [])
              · exact .pure (Clears.refl _)
      | _ => exact .pure (.refl [])
  | _ => exact .pure (.refl [])

theorem relaxes_dependenciesWith (single : Bool) :
    Relaxes "dependencies" (dependenciesWith single) := by
  intro I J s t w w' hI hJ declared subject schema hw
  unfold dependenciesWith
  cases declared with
  | object dependencies =>
      cases hvalue : subject.value with
      | object object =>
          refine .collect fun entry hentry => ?_
          obtain ⟨property, dependency⟩ := entry
          dsimp only
          split
          · exact .pure (.refl [])
          · cases dependency with
            | object members =>
                exact hw.descendAt .here
                  (List.mem_filter.mpr ⟨Json.mem_values hentry, rfl⟩) none (some (.key property))
            | _ => exact .pure (.refl _)
      | _ => exact .pure (.refl [])
  | _ => exact .pure (.refl [])

theorem relaxes_allOf : Relaxes "allOf" allOf := by
  intro I J s t w w' hI hJ declared subject schema hw
  unfold allOf
  cases declared with
  | array branches =>
      exact .collect fun entry hentry => hw.descendBranch (List.fst_mem_of_mem_zipIdx hentry) _
  | _ => exact .pure (.refl [])

/-- If the first search finds a branch, so does the second one. -/
def FindsToo (found found' : Except (List Violation) Nat) : Prop :=
  found.isOk = true → found'.isOk = true

theorem relaxes_firstValid {apply apply' : Json × Nat → Walk (List Violation)}
    {branches : List (Json × Nat)}
    (h : ∀ branch ∈ branches, Walk.Relaxes I J s t Clears (apply branch) (apply' branch)) :
    Walk.Relaxes I J s t FindsToo (firstValid apply branches) (firstValid apply' branches) := by
  induction branches with
  | nil => exact .pure id
  | cons branch rest ih =>
      obtain ⟨hfirst, hrest⟩ := List.forall_mem_cons.mp h
      refine hfirst.bind fun vs ws hclears => ?_
      by_cases hempty : vs.isEmpty = true
      · rw [if_pos hempty, if_pos (hclears.isEmpty hempty)]
        exact .pure fun _ => rfl
      · rw [if_neg hempty]
        by_cases hstop : ws.isEmpty = true
        · -- The second search stops at the branch where the first one goes on.
          rw [if_pos hstop]
          refine .stop (.bind (ih hrest) (g := Pure.pure) fun found found' hfound => ?_ :
            Walk.Relaxes I J s t (fun _ _ => True) _ _) fun _ _ => rfl
          cases found with
          | error more => exact .pure trivial
          | ok i => exact .pure trivial
        · rw [if_neg hstop]
          refine (ih hrest).bind fun found found' hfound => ?_
          cases found with
          | error more =>
              cases found' with
              | error others => exact .pure nofun
              | ok i => exact .pure nofun
          | ok i =>
              cases found' with
              | error others => exact absurd (hfound rfl) Bool.false_ne_true
              | ok j => exact .pure fun _ => rfl

theorem relaxes_anyOf : Relaxes "anyOf" anyOf := by
  intro I J s t w w' hI hJ declared subject schema hw
  unfold anyOf
  cases declared with
  | array branches =>
      refine (relaxes_firstValid fun entry hentry => ?_).bind fun found found' hfound => ?_
      · exact hw.descendBranch (List.fst_mem_of_mem_zipIdx hentry) _
      · cases found with
        | error context =>
            cases found' with
            | error others => exact .pure .of_cons
            | ok i => exact .pure (.nil_right _)
        | ok i =>
            cases found' with
            | error others => exact absurd (hfound rfl) Bool.false_ne_true
            | ok j => exact .pure (.refl [])
  | _ => exact .pure (.refl [])

theorem relaxes_search {types : List (Json × Nat)}
    (h : ∀ entry ∈ types, entry.1.isObject = true → ∀ i, Walk.Relaxes I J s t Clears
      (w.descendAt subject entry.1 none i) (w'.descendAt subject entry.1 none i)) :
    Walk.Relaxes I J s t (fun found found' => found = none → found' = none)
      (Draft3.search w subject types) (Draft3.search w' subject types) := by
  induction types with
  | nil => exact .pure id
  | cons entry rest ih =>
      obtain ⟨type, i⟩ := entry
      obtain ⟨hfirst, hrest⟩ := List.forall_mem_cons.mp h
      cases type with
      | string name =>
          unfold Draft3.search
          split
          · exact .pure id
          · cases hasType subject.value name with
            | error e => exact .fail _ _
            | ok holds =>
                cases holds with
                | true => exact .pure id
                | false => exact ih hrest
      | object members =>
          unfold Draft3.search
          refine (hfirst rfl _).bind fun vs ws hclears => ?_
          have hsearch : Walk.Relaxes I J s t (fun found found' => found = none → found' = none)
              (do return (← Draft3.search w subject rest).map (vs ++ ·))
              (do return (← Draft3.search w' subject rest).map (ws ++ ·)) := by
            refine (ih hrest).map fun found found' hfound hnone => ?_
            rw [hfound (Option.map_eq_none_iff.mp hnone)]
            rfl
          by_cases hempty : vs.isEmpty = true
          · rw [if_pos hempty, if_pos (hclears.isEmpty hempty)]
            exact .pure id
          · rw [if_neg hempty]
            split
            · exact hsearch.stop fun _ _ => rfl
            · exact hsearch
      | _ => exact ih hrest

theorem relaxes_type : Relaxes "type" Draft3.type := by
  intro I J s t w w' hI hJ declared subject schema hw
  unfold Draft3.type
  refine (relaxes_search fun entry hentry hobject i => ?_).bind fun found found' hfound => ?_
  · exact hw.descendAt .here
      (List.mem_filter.mpr ⟨List.fst_mem_of_mem_zipIdx hentry, hobject⟩) none i
  · cases found with
    | some context =>
        cases found' with
        | some others => exact .pure .of_cons
        | none => exact .pure (.nil_right _)
    | none =>
        rw [hfound rfl]
        exact .pure (.refl [])

theorem relaxes_bases : Relaxes "extends" Draft3.bases := by
  intro I J s t w w' hI hJ declared subject schema hw
  unfold Draft3.bases
  cases declared with
  | object members => exact hw.descend subject _ .here (List.mem_singleton_self (Json.object members))
  | array parents =>
      exact .collect fun entry hentry =>
        hw.descendAt .here (List.fst_mem_of_mem_zipIdx hentry) _ _
  | _ => exact .pure (.refl [])

theorem relaxes_draft3_properties : Relaxes "properties" Draft3.properties := by
  intro I J s t w w' hI hJ declared subject schema hw
  unfold Draft3.properties
  cases declared with
  | object declared =>
      cases hvalue : subject.value with
      | object object =>
          refine .collect fun entry hentry => ?_
          dsimp only
          cases hfind : Json.Members.find? entry.1 object with
          | none => exact .pure (.refl _)
          | some value =>
              exact hw.descendAt (.member hvalue (Json.Members.mem_of_find? hfind))
                (Json.mem_values hentry) _ _
      | _ => exact .pure (.refl [])
  | _ => exact .pure (.refl [])

/-- The names of the keywords that reject an instance because a schema accepts it. -/
def negations : List String :=
  ["not", "oneOf", "disallow"]

theorem relaxes_shared : ∀ e ∈ Registry.shared, e.1 ≠ Setting.refKeyword → Relaxes e.1 e.2 := by
  simp only [Registry.shared, List.forall_mem_cons]
  exact ⟨fun h => absurd rfl h, fun _ => relaxes_additionalItems,
    fun _ => relaxes_additionalProperties, fun _ => relaxes_of_alone (Ban.reaches_onObject "").alone,
    fun _ => relaxes_of_alone (reaches_enum "").alone, fun _ => relaxes_items,
    fun _ => relaxes_of_alone (reaches_limited "" _ _ _).alone,
    fun _ => relaxes_of_alone (reaches_limited "" _ _ _).alone,
    fun _ => relaxes_of_alone (reaches_maximum "").alone,
    fun _ => relaxes_of_alone (reaches_limited "" _ _ _).alone,
    fun _ => relaxes_of_alone (reaches_limited "" _ _ _).alone,
    fun _ => relaxes_of_alone (reaches_minimum "").alone,
    fun _ => relaxes_of_alone (reaches_pattern "").alone, fun _ => relaxes_patternProperties,
    fun _ => relaxes_of_alone (reaches_uniqueItems "").alone, List.forall_mem_nil _⟩

theorem relaxes_draft4Only : ∀ e ∈ Registry.draft4Only, e.1 ∉ negations → Relaxes e.1 e.2 := by
  simp only [Registry.draft4Only, List.forall_mem_cons]
  exact ⟨fun _ => relaxes_allOf, fun _ => relaxes_anyOf, fun _ => relaxes_dependenciesWith false,
    fun _ => relaxes_of_alone (reaches_limited "" _ _ _).alone,
    fun _ => relaxes_of_alone (reaches_limited "" _ _ _).alone,
    fun _ => relaxes_of_alone alone_multipleOf,
    fun h => absurd List.mem_cons_self h,
    fun h => absurd (List.mem_cons_of_mem _ List.mem_cons_self) h,
    fun _ => relaxes_properties, fun _ => relaxes_of_alone (reaches_required "").alone,
    fun _ => relaxes_of_alone (reaches_type "").alone, List.forall_mem_nil _⟩

theorem relaxes_draft3Only : ∀ e ∈ Registry.draft3Only, e.1 ∉ negations → Relaxes e.1 e.2 := by
  simp only [Registry.draft3Only, List.forall_mem_cons]
  exact ⟨fun _ => relaxes_dependenciesWith true, fun h => absurd (by decide) h,
    fun _ => relaxes_of_alone alone_multipleOf, fun _ => relaxes_bases,
    fun _ => relaxes_draft3_properties, fun _ => relaxes_type, List.forall_mem_nil _⟩

/-- Every keyword of the drafts relaxes, except for the reference and the negations. -/
theorem relaxes_of_lookup?_ofDraft {draft : Draft} {name : String} {k : Keyword}
    (h : (Registry.ofDraft draft).lookup? name = some k) (href : name ≠ Setting.refKeyword)
    (hname : name ∉ negations) : Relaxes name k :=
  Registry.of_lookup?_ofDraft
    (p := fun name k => name ≠ Setting.refKeyword → name ∉ negations → Relaxes name k)
    (fun e he href _ => relaxes_shared e he href) (fun e he _ => relaxes_draft4Only e he)
    (fun e he _ => relaxes_draft3Only e he) h href hname

end Keyword

end SchemaCheck
