import SchemaCheck.Proofs.Keyword.Inline
import SchemaCheck.Proofs.Keyword.Surrounding
import SchemaCheck.Proofs.Walk.Pair

/-!
Keywords under a map of schemas, up to a relation of results. Suppose that what a second walker
finds under the image of each schema corresponds to what the first walker finds under the schema
itself. Then the results of a keyword of the fourth draft correspond in the same way, by the first
walker on its declared value and by the second walker on that value with the images at the places
for schemas, also if the members around it are mapped.
-/

namespace SchemaCheck

open Walk
open Violation (Likeness)

/-- The results of the second walker under the images of the schemas correspond to those of the
first one under the schemas. -/
structure Walker.Pairs (L : Link) (s t : WalkState)
    (E : List Violation → List Violation → Prop) (f : Json → Json) (subject : Subject)
    (schemas : Json → Prop) (w w' : Walker) : Prop where
  descend : ∀ inner sub, subject.Near inner → schemas sub →
    Walk.Pairs L s t E (w.descend inner sub) (w'.descend inner (f sub))
  branch : ∀ sub, schemas sub →
    Walk.Pairs L s t E (w.applyBranch subject sub) (w'.applyBranch subject (f sub))

namespace Walker.Pairs

variable {L : Link} {s t : WalkState} {E : List Violation → List Violation → Prop}
variable {f : Json → Json} {subject inner : Subject} {schemas : Json → Prop} {w w' : Walker}
variable {sub : Json}

theorem mono {others : Json → Prop} (hw : Walker.Pairs L s t E f subject schemas w w')
    (h : ∀ sub, others sub → schemas sub) : Walker.Pairs L s t E f subject others w w' where
  descend inner sub hnear hsub := hw.descend inner sub hnear (h sub hsub)
  branch sub hsub := hw.branch sub (h sub hsub)

theorem descendAt (hw : Walker.Pairs L s t E f subject schemas w w') (hE : Likeness E)
    (hnear : subject.Near inner) (hsub : schemas sub) (path schemaPath : Option Step) :
    Walk.Pairs L s t E (w.descendAt inner sub path schemaPath)
      (w'.descendAt inner (f sub) path schemaPath) :=
  (hw.descend inner sub hnear hsub).map fun _ _ => hE.nested path schemaPath

theorem descendBranch (hw : Walker.Pairs L s t E f subject schemas w w') (hE : Likeness E)
    (hsub : schemas sub) (i : Nat) :
    Walk.Pairs L s t E (w.descendBranch subject sub i) (w'.descendBranch subject (f sub) i) :=
  (hw.branch sub hsub).map fun _ _ => hE.nested none (some (.index i))

theorem isValid (hw : Walker.Pairs L s t E f subject schemas w w') (hE : Likeness E)
    (hsub : schemas sub) :
    Walk.Pairs L s t (· = ·) (w.isValid subject sub) (w'.isValid subject (f sub)) :=
  (hw.descend subject sub .here hsub).map fun _ _ => hE.isEmpty

end Walker.Pairs

namespace Keyword

/-- The keyword applies the schema, and the schema stands at a place for schemas in the declared
value. -/
def Placed (name : String) (declared sub : Json) : Prop :=
  sub ∈ places name declared ∧ sub ∈ applied name declared

/-- The results of the keyword of that name correspond for any two such walkers. -/
def Pairs (name : String) (k : Keyword) : Prop :=
  ∀ {L : Link} {s t : WalkState} {E : List Violation → List Violation → Prop} {f : Json → Json}
    {w w' : Walker}, Regular L → Likeness E → Json.Shaping f →
    ∀ (declared : Json) (subject : Subject) (schema : Json.Members),
      Walker.Pairs L s t E f subject (Placed name declared) w w' →
      Walk.Pairs L s t E (k w declared subject schema)
        (k w' (replace f name declared) subject (replaceIn f schema))

variable {L : Link} {s t : WalkState} {E : List Violation → List Violation → Prop}
variable {f : Json → Json} {w w' : Walker} {subject : Subject}

/-- A keyword pairs if it applies no schemas and reads no member that could be a schema. -/
theorem pairs_of_alone {name : String} {k : Keyword} (hk : Alone k)
    (hname : Layout.ofKeyword name = .nowhere)
    (hschema : ∀ w declared subject f schema,
      k w declared subject (replaceIn f schema) = k w declared subject schema) :
    Pairs name k := by
  intro L s t E f w w' hL hE hf declared subject schema hw
  have hdeclared : replace f name declared = declared := by
    rw [replace, hname]
    rfl
  rw [hdeclared, hschema]
  exact ((hk declared subject schema).linked_none hL w w').pairs.mono fun _ _ heq => heq ▸ hE.refl _

/-- Replacing schemas in a node keeps the flags of the node. -/
theorem flag_replaceIn (name : String) (hname : Layout.ofKeyword name = .nowhere)
    (f : Json → Json) (schema : Json.Members) : flag name (replaceIn f schema) = flag name schema := by
  rw [flag, flag, find?_replaceIn_of_nowhere hname]

theorem pairs_limited {name : String} (hname : Layout.ofKeyword name = .nowhere) (count : Count)
    (fails : Nat → Nat → Bool) (complaint : String) : Pairs name (limited count fails complaint) :=
  pairs_of_alone (reaches_limited "" count fails complaint).alone hname fun _ _ _ _ _ => rfl

theorem pairs_minimum : Pairs "minimum" minimum :=
  pairs_of_alone (reaches_minimum "").alone rfl fun w declared subject f schema => by
    unfold minimum
    rw [flag_replaceIn _ rfl]

theorem pairs_maximum : Pairs "maximum" maximum :=
  pairs_of_alone (reaches_maximum "").alone rfl fun w declared subject f schema => by
    unfold maximum
    rw [flag_replaceIn _ rfl]

/-- The results of a check correspond whatever the text of its message is. -/
theorem pairs_message {c : Prop} [Decidable c] (hE : Likeness E) (text other : String) :
    Walk.Pairs L s t E
      (if c then return [] else return [.ofMessage text] : Walk (List Violation))
      (if c then return [] else return [.ofMessage other]) := by
  split
  · exact .pure (hE.refl [])
  · exact .pure (hE.ofMessage text other)

theorem pairs_items : Pairs "items" items := by
  intro L s t E f w w' hL hE hf declared subject schema hw
  unfold items
  cases hvalue : subject.value with
  | array elements =>
      cases declared with
      | array schemas =>
          show Walk.Pairs L s t _ _ (Walk.collect _ (elements.zipIdx.zip (schemas.map f)))
          rw [List.zip_map_right]
          refine .collect hE fun entry hentry => ?_
          obtain ⟨⟨element, i⟩, sub⟩ := entry
          obtain ⟨hitem, hsub⟩ := List.of_mem_zip hentry
          exact hw.descendAt hE (.item hvalue (List.mem_zipIdx_iff_getElem?.mp hitem))
            ⟨hsub, hsub⟩ _ _
      | object members =>
          obtain ⟨others, hothers⟩ := hf.exists_object members
          rw [show replace f "items" (.object members) = .object others from hothers]
          refine .collect_same hE fun entry hentry => ?_
          obtain ⟨element, i⟩ := entry
          have hself := List.mem_singleton_self (Json.object members)
          have happly := hw.descendAt hE (.item hvalue (List.mem_zipIdx_iff_getElem?.mp hentry))
            ⟨hself, hself⟩ (some (.index i)) none
          rwa [hothers] at happly
      | _ => exact .pure (hE.refl [])
  | _ => exact .pure (hE.refl [])

theorem pairs_additionalItems : Pairs "additionalItems" additionalItems := by
  intro L s t E f w w' hL hE hf declared subject schema hw
  unfold additionalItems
  cases hvalue : subject.value with
  | array elements =>
      rw [find?_replaceIn]
      cases Json.Members.find? "items" schema with
      | none => exact .pure (hE.refl [])
      | some positional =>
          cases positional with
          | array positional =>
              rw [show (some (Json.array positional)).map (replace f "items") =
                some (.array (positional.map f)) from rfl]
              dsimp only
              rw [List.length_map]
              cases declared with
              | object members =>
                  obtain ⟨others, hothers⟩ := hf.exists_object members
                  rw [show replace f "additionalItems" (.object members) = .object others from hothers]
                  refine .collect_same hE fun entry hentry => ?_
                  have hitem := getElem?_of_mem_zipIdx_drop hentry
                  have hself := List.mem_singleton_self (Json.object members)
                  have happly := hw.descendAt hE (.item hvalue hitem)
                    ⟨hself, hself⟩ (some (.index entry.2)) none
                  rwa [hothers] at happly
              | bool allowed =>
                  rw [show replace f "additionalItems" (.bool allowed) = .bool allowed from
                    hf.other _ rfl]
                  cases allowed with
                  | true => exact .pure (hE.refl [])
                  | false => exact pairs_message hE _ _
              | _ =>
                  rw [show replace f "additionalItems" _ = _ from hf.other _ rfl]
                  exact .pure (hE.refl [])
          | object members =>
              obtain ⟨others, hothers⟩ := hf.exists_object members
              rw [Option.map_some, show replace f "items" (.object members) = .object others from hothers]
              exact .pure (hE.refl [])
          | _ => exact .pure (hE.refl [])
  | _ => exact .pure (hE.refl [])

theorem pairs_properties : Pairs "properties" properties := by
  intro L s t E f w w' hL hE hf declared subject schema hw
  unfold properties
  cases declared with
  | object declared =>
      cases hvalue : subject.value with
      | object object =>
          refine .collect hE fun entry hentry => ?_
          dsimp only
          cases hfind : Json.Members.find? entry.1 object with
          | none => exact .pure (hE.refl [])
          | some value =>
              have hmember := Json.Members.mem_of_find? hfind
              have hsub := Json.mem_values hentry
              exact hw.descendAt hE (.member hvalue hmember) ⟨hsub, hsub⟩ _ _
      | _ => exact .pure (hE.refl [])
  | _ => exact .pure (hE.refl [])

theorem pairs_patternProperties : Pairs "patternProperties" patternProperties := by
  intro L s t E f w w' hL hE hf declared subject schema hw
  unfold patternProperties
  cases declared with
  | object patterns =>
      cases hvalue : subject.value with
      | object object =>
          refine .collect hE fun entry hentry => ?_
          have hsub := Json.mem_values hentry
          have hregex := (hL.regex entry.1 s t).pairs
          refine hregex.bind fun r _ heq => heq ▸ .collect_same hE fun member hmember => ?_
          dsimp only
          split
          · exact hw.descendAt hE (.member hvalue hmember) ⟨hsub, hsub⟩ _ _
          · exact .pure (hE.refl [])
      | _ => exact .pure (hE.refl [])
  | _ => exact .pure (hE.refl [])

/-- Replacing schemas in a node keeps the names and the patterns that the node declares. -/
theorem declaredMembers_replaceIn {name : String} (hname : Layout.ofKeyword name = .values)
    (f : Json → Json) (schema : Json.Members) :
    declaredMembers name (replaceIn f schema) =
      (declaredMembers name schema).map fun members => members.map fun m => (m.1, f m.2) := by
  have hvalues : replace f name = Json.mapValues f := by
    funext declared
    rw [replace, hname]
    rfl
  rw [declaredMembers, declaredMembers, find?_replaceIn, hvalues]
  cases Json.Members.find? name schema with
  | none => rfl
  | some declared => cases declared <;> rfl

theorem additionalKeys_replaceIn (f : Json → Json) (object schema : Json.Members) :
    additionalKeys object (replaceIn f schema) = additionalKeys object schema := by
  have hcontains (members : Json.Members) (key : String) :
      Json.Members.contains key (members.map fun m => (m.1, f m.2)) =
        Json.Members.contains key members := by
    rw [Json.Members.contains, Json.Members.find?_mapEntries (fun _ => f), Option.isSome_map]
    rfl
  have hkeys (members : Json.Members) :
      Json.Members.keys (members.map fun m => (m.1, f m.2)) = Json.Members.keys members := by
    simp [Json.Members.keys]
  unfold additionalKeys
  rw [declaredMembers_replaceIn rfl, declaredMembers_replaceIn rfl]
  cases declaredMembers "properties" schema <;>
    cases declaredMembers "patternProperties" schema <;> simp [hcontains, hkeys]

theorem pairs_additionalProperties : Pairs "additionalProperties" additionalProperties := by
  intro L s t E f w w' hL hE hf declared subject schema hw
  unfold additionalProperties
  cases hvalue : subject.value with
  | object object =>
      have hkeys : Walk.Pairs L s t (· = ·) _ _ :=
        ((program_additionalKeys (r := .none subject) object schema).linked_none hL w w').pairs
      show Walk.Pairs L s t _ (additionalKeys object schema >>= _)
        (additionalKeys object (replaceIn f schema) >>= _)
      rw [additionalKeys_replaceIn]
      refine hkeys.bind fun extras _ heq => heq ▸ ?_
      cases declared with
      | object members =>
          obtain ⟨others, hothers⟩ := hf.exists_object members
          rw [show replace f "additionalProperties" (.object members) = .object others from hothers]
          refine .collect_same hE fun key _ => ?_
          cases hfind : Json.Members.find? key object with
          | none => exact .pure (hE.refl [])
          | some value =>
              have hself := List.mem_singleton_self (Json.object members)
              have happly := hw.descendAt hE (.member hvalue (Json.Members.mem_of_find? hfind))
                ⟨hself, hself⟩ (some (.key key)) none
              rwa [hothers] at happly
      | bool allowed =>
          rw [show replace f "additionalProperties" (.bool allowed) = .bool allowed from
            hf.other _ rfl]
          cases allowed with
          | true => exact .pure (hE.refl [])
          | false => exact pairs_message hE _ _
      | _ =>
          rw [show replace f "additionalProperties" _ = _ from hf.other _ rfl]
          exact .pure (hE.refl [])
  | _ => exact .pure (hE.refl [])

theorem pairs_dependencies : Pairs "dependencies" dependencies := by
  intro L s t E f w w' hL hE hf declared subject schema hw
  unfold dependencies dependenciesWith
  cases declared with
  | object dependencies =>
      cases hvalue : subject.value with
      | object object =>
          refine .collect hE fun entry hentry => ?_
          obtain ⟨property, dependency⟩ := entry
          dsimp only
          split
          · exact .pure (hE.refl [])
          · cases dependency with
            | object members =>
                obtain ⟨others, hothers⟩ := hf.exists_object members
                have hsub := Json.mem_values hentry
                have happly := hw.descendAt hE .here ⟨hsub, List.mem_filter.mpr ⟨hsub, rfl⟩⟩ none
                  (some (.key property))
                rw [hothers] at happly ⊢
                exact happly
            | array names =>
                rw [hf.other _ rfl]
                exact .pure (hE.refl _)
            | _ =>
                rw [hf.other _ rfl]
                exact .pure (hE.refl [])
      | _ => exact .pure (hE.refl [])
  | _ => exact .pure (hE.refl [])

theorem pairs_allOf : Pairs "allOf" allOf := by
  intro L s t E f w w' hL hE hf declared subject schema hw
  unfold allOf
  cases declared with
  | array branches =>
      show Walk.Pairs L s t _ _ (Walk.collect _ (branches.map f).zipIdx)
      rw [List.zipIdx_map]
      refine .collect hE fun entry hentry => ?_
      have hsub := List.fst_mem_of_mem_zipIdx hentry
      exact hw.descendBranch hE ⟨hsub, hsub⟩ _
  | _ => exact .pure (hE.refl [])

/-- Both searches find the same branch, or both find none and have corresponding violations. -/
inductive LikeFound (E : List Violation → List Violation → Prop) :
    Except (List Violation) Nat → Except (List Violation) Nat → Prop
  | found (i : Nat) : LikeFound E (.ok i) (.ok i)
  | none {vs ws : List Violation} : E vs ws → LikeFound E (.error vs) (.error ws)

theorem pairs_firstValid (hE : Likeness E) {apply apply' : Json × Nat → Walk (List Violation)}
    {branches : List (Json × Nat)}
    (h : ∀ branch ∈ branches,
      Walk.Pairs L s t E (apply branch) (apply' (branch.map f id))) :
    Walk.Pairs L s t (LikeFound E) (firstValid apply branches)
      (firstValid apply' (branches.map (Prod.map f id))) := by
  induction branches with
  | nil => exact .pure (.none (hE.refl []))
  | cons branch rest ih =>
      obtain ⟨hfirst, hrest⟩ := List.forall_mem_cons.mp h
      refine hfirst.bind fun vs ws hlike => ?_
      rw [hE.isEmpty hlike]
      split
      · exact .pure (.found _)
      · refine (ih hrest).bind fun found found' hfound => ?_
        cases hfound with
        | found i => exact .pure (.found i)
        | none hmore => exact .pure (.none (hE.append hlike hmore))

theorem pairs_anyOf : Pairs "anyOf" anyOf := by
  intro L s t E f w w' hL hE hf declared subject schema hw
  unfold anyOf
  cases declared with
  | array branches =>
      show Walk.Pairs L s t _ _ (firstValid _ (branches.map f).zipIdx >>= _)
      rw [List.zipIdx_map]
      refine (pairs_firstValid hE fun entry hentry => ?_).bind fun found found' hfound => ?_
      · have hsub := List.fst_mem_of_mem_zipIdx hentry
        exact hw.descendBranch hE ⟨hsub, hsub⟩ _
      · cases hfound with
        | found i => exact .pure (hE.refl [])
        | none hlike => exact .pure (hE.withContext _ _ hlike)
  | _ => exact .pure (hE.refl [])

theorem pairs_validAmong {branches : List Json}
    (h : ∀ branch ∈ branches,
      Walk.Pairs L s t (· = ·) (w.isValid subject branch) (w'.isValid subject (f branch))) :
    Walk.Pairs L s t (fun valid others => others = valid.map f)
      (validAmong w subject branches) (validAmong w' subject (branches.map f)) := by
  induction branches with
  | nil => exact .pure rfl
  | cons branch rest ih =>
      obtain ⟨hfirst, hrest⟩ := List.forall_mem_cons.mp h
      refine hfirst.bind fun holds _ heq => heq ▸ (ih hrest).map ?_
      rintro more _ rfl
      split
      · rfl
      · rfl

theorem pairs_oneOf : Pairs "oneOf" oneOf := by
  intro L s t E f w w' hL hE hf declared subject schema hw
  unfold oneOf
  cases declared with
  | array branches =>
      show Walk.Pairs L s t _ _ (firstValid _ (branches.map f).zipIdx >>= _)
      rw [List.zipIdx_map]
      refine (pairs_firstValid hE fun entry hentry => ?_).bind fun found found' hfound => ?_
      · have hsub := List.fst_mem_of_mem_zipIdx hentry
        exact hw.descendAt hE .here ⟨hsub, hsub⟩ _ _
      · cases hfound with
        | none hlike => exact .pure (hE.withContext _ _ hlike)
        | found first =>
            dsimp only
            show Walk.Pairs L s t _ _
              (validAmong w' subject ((branches.map f).drop (first + 1)) >>= _)
            rw [← List.map_drop]
            refine (pairs_validAmong fun branch hbranch => ?_).bind ?_
            · have hsub := List.mem_of_mem_drop hbranch
              exact hw.isValid hE ⟨hsub, hsub⟩
            · rintro others _ rfl
              rw [List.isEmpty_map]
              exact pairs_message hE _ _
  | _ => exact .pure (hE.refl [])

theorem pairs_not : Pairs "not" not := by
  intro L s t E f w w' hL hE hf declared subject schema hw
  have hself := List.mem_singleton_self declared
  refine (hw.isValid hE ⟨hself, hself⟩).bind fun holds _ heq => heq ▸ ?_
  split
  · exact .pure (hE.ofMessage _ _)
  · exact .pure (hE.refl [])

theorem pairs_shared : ∀ e ∈ Registry.shared,
    e.1 ≠ Setting.refKeyword → e.1 ≠ Ban.keyword → Pairs e.1 e.2 := by
  simp only [Registry.shared, List.forall_mem_cons]
  exact ⟨fun h => absurd rfl h, fun _ _ => pairs_additionalItems,
    fun _ _ => pairs_additionalProperties, fun _ h => absurd rfl h,
    fun _ _ => pairs_of_alone (reaches_enum "").alone rfl fun _ _ _ _ _ => rfl,
    fun _ _ => pairs_items, fun _ _ => pairs_limited rfl _ _ _,
    fun _ _ => pairs_limited rfl _ _ _, fun _ _ => pairs_maximum,
    fun _ _ => pairs_limited rfl _ _ _, fun _ _ => pairs_limited rfl _ _ _,
    fun _ _ => pairs_minimum,
    fun _ _ => pairs_of_alone (reaches_pattern "").alone rfl fun _ _ _ _ _ => rfl,
    fun _ _ => pairs_patternProperties,
    fun _ _ => pairs_of_alone (reaches_uniqueItems "").alone rfl fun _ _ _ _ _ => rfl,
    List.forall_mem_nil _⟩

theorem pairs_draft4Only : ∀ e ∈ Registry.draft4Only, Pairs e.1 e.2 := by
  simp only [Registry.draft4Only, List.forall_mem_cons]
  exact ⟨pairs_allOf, pairs_anyOf, pairs_dependencies, pairs_limited rfl _ _ _,
    pairs_limited rfl _ _ _,
    pairs_of_alone alone_multipleOf rfl fun _ _ _ _ _ => rfl, pairs_not, pairs_oneOf,
    pairs_properties, pairs_of_alone (reaches_required "").alone rfl fun _ _ _ _ _ => rfl,
    pairs_of_alone (reaches_type "").alone rfl fun _ _ _ _ _ => rfl, List.forall_mem_nil _⟩

/-- Every keyword of the fourth draft pairs, except for the reference and the ban, which is no
keyword of a schema. -/
theorem pairs_of_lookup? {name : String} {k : Keyword} (h : Registry.draft4.lookup? name = some k)
    (href : name ≠ Setting.refKeyword) (hban : name ≠ Ban.keyword) : Pairs name k := by
  rcases List.mem_append.mp (Registry.mem_of_lookup?_draft4 h) with h | h
  · exact pairs_shared _ h href hban
  · exact pairs_draft4Only _ h

theorem replace_id (name : String) (declared : Json) : replace id name declared = declared := by
  have hvalues : declared.mapValues id = declared := by
    cases declared <;> simp [Json.mapValues]
  have helements : declared.mapElements id = declared := by
    cases declared <;> simp [Json.mapElements]
  unfold replace Layout.replace
  split
  · exact hvalues
  · exact helements
  · split
    · rfl
    · exact helements
  · rfl
  · rfl

theorem replaceIn_id (schema : Json.Members) : replaceIn id schema = schema := by
  simp [replaceIn, replace_id]

/-- The case in which both walkers have the same schemas and the nodes around the keyword agree on
the members that it reads. -/
theorem pairs_of_alike {name : String} {k : Keyword} (h : Registry.draft4.lookup? name = some k)
    (href : name ≠ Setting.refKeyword) (hban : name ≠ Ban.keyword) (hL : Regular L) (hE : Likeness E)
    {members others : Json.Members} (halike : members.Alike others) {declared : Json}
    (hw : Walker.Pairs L s t E id subject (Placed name declared) w w') :
    Walk.Pairs L s t E (k w declared subject members) (k w' declared subject others) := by
  have hshaping : Json.Shaping id := ⟨fun _ => rfl, fun _ _ => rfl⟩
  have hpairs := pairs_of_lookup? h href hban hL hE hshaping declared subject members hw
  have hofDraft : (Registry.ofDraft .draft4).lookup? name = some k := h
  have hreserved : k.Reserved := reserved_of_lookup?_ofDraft hofDraft hban
  rwa [replace_id, replaceIn_id, hreserved w' declared subject members others halike] at hpairs

end Keyword

end SchemaCheck
