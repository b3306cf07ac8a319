import SchemaCheck.Proofs.Json.Ordered
import SchemaCheck.Proofs.Keyword.Reach
import SchemaCheck.Proofs.Walk.Result

/-!
The violations of keywords. A keyword reports a message for its own subject, with an empty location
and possibly with the violations of applied schemas as its context. It passes on violations of a
part of the subject with the step into that part in front of their location, and a few keywords also
pass on violations of the subject itself. The step from the declared value to the applied schema is
added in front of the schema path. A property that is preserved by these steps holds for all
violations of every keyword.
-/

namespace SchemaCheck

open Walk Violation

/-- The place of a schema in a declared value: the value itself, or one step into it. -/
inductive Json.Offers (declared : Json) : Option Step → Json → Prop
  | whole : Offers declared none declared
  | member {members : Json.Members} {key : String} {schema : Json} :
      declared = .object members → (key, schema) ∈ members → Offers declared (some (.key key)) schema
  | item {items : List Json} {i : Nat} {schema : Json} :
      declared = .array items → items[i]? = some schema → Offers declared (some (.index i)) schema

/-- A property that is preserved from the violations of applied schemas to those of the keyword. -/
structure Passage where
  /-- The property of the violations of a schema for a subject. -/
  applied : Subject → (schema : Json) → Violation → Prop
  /-- The property of these violations behind the step from the declared value to the schema. -/
  lifted : Subject → (declared : Json) → Violation → Prop
  /-- The property of the violations of a keyword. -/
  raised : Subject → (declared : Json) → Violation → Prop
  lift : ∀ subject declared place schema v, declared.Offers place schema →
    applied subject schema v → lifted subject declared (v.nested none place)
  message : ∀ subject declared text, raised subject declared (.ofMessage text)
  context : ∀ subject branches text context, (∀ v ∈ context, lifted subject (.array branches) v) →
    raised subject (.array branches) ((Violation.ofMessage text).withContext context)
  inside : ∀ subject step value declared place schema v, subject.Near (subject.child step value) →
    declared.Offers place schema → applied (subject.child step value) schema v →
    raised subject declared (v.nested (some step) place)

namespace Passage

/-- The property is also preserved if a keyword passes on a violation of its subject unchanged. -/
def Through (P : Passage) : Prop :=
  ∀ subject declared v, P.lifted subject declared v → P.raised subject declared v

/-- The property is preserved if a reference passes on the violations of its target. -/
def Refers (P : Passage) : Prop :=
  ∀ subject declared schema v, P.applied subject schema v → P.raised subject declared v

/-- The property is preserved by the keywords of the third draft that build other schema paths. -/
structure Third (P : Passage) : Prop where
  types : ∀ subject declared text context,
    (∀ v ∈ context, P.lifted subject (.array (Keyword.Draft3.members declared)) v) →
      P.raised subject declared ((Violation.ofMessage text).withContext context)
  missing : ∀ subject declared name schema, declared.Offers (some (.key name)) schema →
    ∀ v ∈ Keyword.Draft3.missing name schema, P.raised subject declared v

end Passage

theorem Violation.nested_none_none (v : Violation) : v.nested none none = v := by
  cases v
  rfl

def Walker.Keeps (w : Walker) (P : Passage) : Prop :=
  ∀ subject schema override, Lists (P.applied subject schema) (w.visit subject schema override)

def Keyword.Keeps (k : Keyword) (P : Passage) : Prop :=
  ∀ w : Walker, w.Keeps P → ∀ declared subject schema,
    Lists (P.raised subject declared) (k w declared subject schema)

namespace Walker.Keeps

variable {w : Walker} {P : Passage} {subject : Subject} {declared schema : Json}
  {place : Option Step}

theorem descendAt_here (hw : w.Keeps P) (hoffers : declared.Offers place schema) :
    Lists (P.lifted subject declared) (w.descendAt subject schema none place) :=
  .map (hw subject schema none) fun _ h => P.lift _ _ _ _ _ hoffers h

/-- A schema that is applied to the member of an object. -/
theorem descendAt_member (hw : w.Keeps P) {key : String} {value : Json} {object : Json.Members}
    (hvalue : subject.value = .object object) (hmem : (key, value) ∈ object)
    (hoffers : declared.Offers place schema) :
    Lists (P.raised subject declared)
      (w.descendAt (subject.child (.key key) value) schema (some (.key key)) place) :=
  .map (hw _ schema none) fun _ h => P.inside _ _ _ _ _ _ _ (.member hvalue hmem) hoffers h

/-- A schema that is applied to the element of an array. -/
theorem descendAt_item (hw : w.Keeps P) {i : Nat} {value : Json} {items : List Json}
    (hvalue : subject.value = .array items) (hitem : items[i]? = some value)
    (hoffers : declared.Offers place schema) :
    Lists (P.raised subject declared)
      (w.descendAt (subject.child (.index i) value) schema (some (.index i)) place) :=
  .map (hw _ schema none) fun _ h => P.inside _ _ _ _ _ _ _ (.item hvalue hitem) hoffers h

theorem descendBranch (hw : w.Keeps P) {branches : List Json} {branch : Json × Nat}
    (hbranch : branch ∈ branches.zipIdx) :
    Lists (P.lifted subject (.array branches)) (w.descendBranch subject branch.1 branch.2) :=
  .map (.after fun _ => hw subject branch.1 _) fun _ h =>
    P.lift _ _ _ _ _ (.item rfl (List.mem_zipIdx_iff_getElem?.mp hbranch)) h

end Walker.Keeps

namespace Keyword

variable {P : Passage} {w : Walker} {subject : Subject} {declared : Json}

/-- A keyword that reports a message for its subject under a condition. -/
theorem lists_message {c : Prop} [Decidable c] (message : String) :
    Lists (P.raised subject declared)
      (if c then return [.ofMessage message] else return [] : Walk (List Violation)) := by
  split
  · exact .singleton (P.message subject declared message)
  · exact .nil

theorem keeps_limited (count : Count) (fails : Nat → Nat → Bool) (complaint : String) :
    Keyword.Keeps (limited count fails complaint) P := by
  intro w _ declared subject schema
  unfold limited
  split
  · exact lists_message _
  · exact .nil

theorem keeps_minimum : minimum.Keeps P := by
  intro w _ declared subject schema
  unfold minimum
  split
  · exact lists_message _
  · exact .nil

theorem keeps_maximum : maximum.Keeps P := by
  intro w _ declared subject schema
  unfold maximum
  split
  · exact lists_message _
  · exact .nil

theorem keeps_multipleOf : multipleOf.Keeps P := by
  intro w _ declared subject schema
  unfold multipleOf
  split
  · split
    · exact .nil
    · exact .singleton (P.message _ _ _)
    · exact .fail _
  · exact .nil

theorem keeps_pattern : pattern.Keeps P := by
  intro w _ declared subject schema
  unfold pattern
  split
  · refine .after fun r => ?_
    split
    · exact .nil
    · exact .singleton (P.message _ _ _)
  · exact .nil

theorem keeps_type : type.Keeps P := by
  intro w _ declared subject schema
  refine .after fun holds => ?_
  split
  · exact .nil
  · exact .singleton (P.message _ _ _)

theorem keeps_enum : enum.Keeps P := by
  intro w _ declared subject schema
  unfold enum
  split
  · split
    · exact .nil
    · exact .singleton (P.message _ _ _)
  · exact .nil

theorem keeps_uniqueItems : uniqueItems.Keeps P := by
  intro w _ declared subject schema
  unfold uniqueItems
  split
  · exact lists_message _
  · exact .nil

theorem keeps_required : required.Keeps P := by
  intro w _ declared subject schema
  unfold required
  split
  · refine .pure fun v hv => ?_
    obtain ⟨name, -, rfl⟩ := List.mem_map.mp hv
    exact P.message _ _ _
  · exact .nil

theorem keeps_items : items.Keeps P := by
  intro w hw declared subject schema
  unfold items
  split
  next elements schemas hvalue =>
    refine .collect fun entry hentry => ?_
    obtain ⟨⟨element, i⟩, schema⟩ := entry
    obtain ⟨hitem, hschema⟩ := getElem?_of_mem_zip hentry
    exact hw.descendAt_item hvalue hitem (.item rfl hschema)
  next elements members hvalue =>
    refine .collect fun entry hentry => ?_
    exact hw.descendAt_item hvalue (List.mem_zipIdx_iff_getElem?.mp hentry) .whole
  next => exact .nil

theorem keeps_additionalItems : additionalItems.Keeps P := by
  intro w hw declared subject schema
  unfold additionalItems
  split
  next elements positional hvalue _ =>
    dsimp only
    split
    next =>
      refine .collect fun entry hentry => ?_
      exact hw.descendAt_item hvalue (getElem?_of_mem_zipIdx_drop hentry) .whole
    next =>
      split
      · exact .nil
      · exact .singleton (P.message _ _ _)
    next => exact .nil
  next => exact .nil

theorem keeps_properties : properties.Keeps P := by
  intro w hw declared subject schema
  unfold properties
  split
  next properties object hvalue =>
    refine .collect fun entry hentry => ?_
    dsimp only
    split
    next value hfind =>
      exact hw.descendAt_member hvalue (Json.Members.mem_of_find? hfind) (.member rfl hentry)
    next => exact .nil
  next => exact .nil

theorem keeps_patternProperties : patternProperties.Keeps P := by
  intro w hw declared subject schema
  unfold patternProperties
  split
  next patterns object hvalue =>
    refine .collect fun entry hentry => .after fun r => .collect fun member hmember => ?_
    dsimp only
    split
    · exact hw.descendAt_member hvalue hmember (.member rfl hentry)
    · exact .nil
  next => exact .nil

theorem keeps_additionalProperties : additionalProperties.Keeps P := by
  intro w hw declared subject schema
  unfold additionalProperties
  split
  next object hvalue =>
    refine .after fun extras => ?_
    split
    next =>
      refine .collect fun key _ => ?_
      split
      next value hfind =>
        exact hw.descendAt_member hvalue (Json.Members.mem_of_find? hfind) .whole
      next => exact .nil
    next =>
      split
      · exact .nil
      · exact .singleton (P.message _ _ _)
    next => exact .nil
  next => exact .nil

theorem raised_missingDependencies {object : Json.Members} {property : String}
    {names : List String} {v : Violation} (h : v ∈ missingDependencies object property names) :
    P.raised subject declared v := by
  obtain ⟨name, -, rfl⟩ := List.mem_map.mp h
  exact P.message _ _ _

/-- A schema in `dependencies` is applied to the subject itself. -/
theorem lists_dependenciesWith (single : Bool) (hw : w.Keeps P)
    (hthrough : applied "dependencies" declared ≠ [] → P.Through) (schema : Json.Members) :
    Lists (P.raised subject declared) (dependenciesWith single w declared subject schema) := by
  unfold dependenciesWith
  split
  next dependencies object hvalue =>
    refine .collect fun entry hentry => ?_
    obtain ⟨property, dependency⟩ := entry
    dsimp only
    split
    · exact .nil
    · split
      next members =>
        have happlied : Json.object members ∈ applied "dependencies" (.object dependencies) :=
          List.mem_filter.mpr ⟨Json.mem_values hentry, rfl⟩
        exact (hw.descendAt_here (.member rfl hentry)).mono
          (hthrough (List.ne_nil_of_mem happlied) _ _)
      next => exact .pure fun v hv => raised_missingDependencies hv
      next =>
        refine .pure fun v hv => ?_
        split at hv
        · exact raised_missingDependencies hv
        · exact nomatch hv
      next => exact .nil
  next => exact .nil

theorem keeps_dependenciesWith (hthrough : P.Through) (single : Bool) :
    Keyword.Keeps (dependenciesWith single) P :=
  fun _ hw _ _ schema => lists_dependenciesWith single hw (fun _ => hthrough) schema

theorem keeps_allOf (hthrough : P.Through) : allOf.Keeps P := by
  intro w hw declared subject schema
  unfold allOf
  split
  · exact .collect fun entry hentry => (hw.descendBranch hentry).mono (hthrough _ _)
  · exact .nil

/-- A property of the violations of each branch holds for the violations of all branches in front of
the first valid one. -/
theorem ensures_firstValid {p : Violation → Prop} {apply : Json × Nat → Walk (List Violation)}
    {branches : List (Json × Nat)} (h : ∀ branch ∈ branches, Lists p (apply branch)) :
    Ensures (fun found => ∀ context, found = .error context → ∀ v ∈ context, p v)
      (firstValid apply branches) := by
  induction branches with
  | nil =>
      refine .pure fun context hcontext => ?_
      cases hcontext
      exact fun _ hv => nomatch hv
  | cons branch rest ih =>
      obtain ⟨hbranch, hrest⟩ := List.forall_mem_cons.mp h
      refine .bind hbranch fun violations hviolations => ?_
      split
      · exact .pure fun _ hcontext => nomatch hcontext
      · refine .bind (ih hrest) fun found hfound => ?_
        split
        next => exact .pure fun _ hcontext => nomatch hcontext
        next more =>
          refine .pure fun context hcontext v hv => ?_
          cases hcontext
          exact (List.mem_append.mp hv).elim (hviolations v) (hfound more rfl v)

theorem keeps_anyOf : anyOf.Keeps P := by
  intro w hw declared subject schema
  unfold anyOf
  split
  · refine .bind (ensures_firstValid fun branch hbranch => hw.descendBranch hbranch)
      fun found hfound => ?_
    split
    · exact .nil
    · exact .singleton (P.context _ _ _ _ (hfound _ rfl))
  · exact .nil

theorem keeps_oneOf : oneOf.Keeps P := by
  intro w hw declared subject schema
  unfold oneOf
  split
  · refine .bind (ensures_firstValid fun branch hbranch =>
      hw.descendAt_here (.item rfl (List.mem_zipIdx_iff_getElem?.mp hbranch)))
      fun found hfound => ?_
    split
    · exact .singleton (P.context _ _ _ _ (hfound _ rfl))
    · refine .after fun others => ?_
      dsimp only
      split
      · exact .nil
      · exact .singleton (P.message _ _ _)
  · exact .nil

theorem keeps_not : not.Keeps P := by
  intro w _ declared subject schema
  exact .after fun holds => lists_message _

theorem keeps_reference (hrefers : P.Refers) : reference.Keeps P := by
  intro w hw declared subject schema
  unfold reference
  split
  · refine .after fun target => .after fun s => ?_
    dsimp only
    split
    · exact .fail _
    · refine .after fun _ => Ensures.ensuring (Ensures.inScope ?_)
      exact (hw subject target.schema _).mono (hrefers _ _ _)
  · exact .fail _

namespace Draft3

/-- A property of the violations of each schema among the types holds for the violations of all of
them. -/
theorem ensures_search (hw : w.Keeps P) {types : List (Json × Nat)}
    (htypes : ∀ type ∈ types, declared.Offers (some (.index type.2)) type.1) :
    Ensures (fun found => ∀ context, found = some context → ∀ v ∈ context,
        P.lifted subject declared v)
      (search w subject types) := by
  induction types with
  | nil =>
      refine .pure fun context hcontext => ?_
      cases hcontext
      exact fun _ hv => nomatch hv
  | cons type rest ih =>
      obtain ⟨htype, hrest⟩ := List.forall_mem_cons.mp htypes
      have hnone : Ensures (fun found : Option (List Violation) => ∀ context,
          found = some context → ∀ v ∈ context, P.lifted subject declared v) (Pure.pure none) :=
        .pure fun _ hcontext => nomatch hcontext
      unfold search
      split
      next heq => cases heq
      next heq =>
        cases heq
        split
        · exact hnone
        · refine .after fun holds => ?_
          split
          · exact hnone
          · exact ih hrest
      next heq =>
        cases heq
        refine .bind (hw.descendAt_here htype) fun violations hviolations => ?_
        split
        · exact hnone
        · refine .bind (ih hrest) fun found hfound => .pure fun context hcontext v hv => ?_
          obtain ⟨more, rfl, rfl⟩ := Option.map_eq_some_iff.mp hcontext
          exact (List.mem_append.mp hv).elim (hviolations v) (hfound more rfl v)
      next heq =>
        cases heq
        exact ih hrest

/-- A single type is treated as a list of one. -/
theorem keeps_type (hthird : P.Third) : type.Keeps P := by
  intro w hw declared subject schema
  have htypes : ∀ type ∈ (members declared).zipIdx,
      (Json.array (members declared)).Offers (some (.index type.2)) type.1 :=
    fun type htype => .item rfl (List.mem_zipIdx_iff_getElem?.mp htype)
  refine .bind (ensures_search hw htypes) fun found hfound => ?_
  split
  · exact .nil
  next context => exact .singleton (hthird.types _ _ _ _ (hfound context rfl))

theorem keeps_disallow : disallow.Keeps P := by
  intro w _ declared subject schema
  exact .collect fun disallowed _ => .after fun holds => lists_message _

theorem keeps_bases (hthrough : P.Through) : bases.Keeps P := by
  intro w hw declared subject schema
  unfold bases
  split
  · refine (hw subject _ none).mono fun v h => hthrough _ _ _ ?_
    have hlifted := P.lift _ _ none _ v .whole h
    rwa [nested_none_none] at hlifted
  · refine .collect fun entry hentry => ?_
    exact (hw.descendAt_here (.item rfl (List.mem_zipIdx_iff_getElem?.mp hentry))).mono
      (hthrough _ _)
  · exact .nil

theorem keeps_properties (hthird : P.Third) : properties.Keeps P := by
  intro w hw declared subject schema
  unfold properties
  split
  next properties object hvalue =>
    refine .collect fun entry hentry => ?_
    have hoffers : (Json.object properties).Offers (some (.key entry.1)) entry.2 :=
      .member rfl hentry
    dsimp only
    split
    next value hfind =>
      exact hw.descendAt_member hvalue (Json.Members.mem_of_find? hfind) hoffers
    next => exact .pure (hthird.missing _ _ _ _ hoffers)
  next => exact .nil

end Draft3

end Keyword

namespace Ban

variable {w : Walker} {subject : Subject}

/-- The ban reports only messages for its subject. -/
theorem lists_onObject (declared : Json) (schema : Json.Members) :
    Lists (fun v => ∃ text, v = .ofMessage text) (onObject w declared subject schema) := by
  unfold onObject
  split
  · split
    · refine .after fun extras => ?_
      dsimp only
      split
      · exact .nil
      · exact .singleton ⟨_, rfl⟩
    · exact .nil
  · exact .nil

theorem keeps_onObject {P : Passage} : Keyword.Keeps onObject P := by
  rintro w - declared subject schema
  refine (lists_onObject declared schema).mono ?_
  rintro _ ⟨text, rfl⟩
  exact P.message _ _ _

/-- The ban on branches fills in its violation itself. -/
theorem lists_onBranches (effective : Bool) (branches : List Json) :
    Lists (fun v => ∃ text, v = ((ofMessage text).fill keyword (.bool effective) subject.value
        (.array branches)).underSchema (.key keyword))
      (onBranches w effective subject branches) := by
  unfold onBranches
  split
  · exact .nil
  · refine .after fun targets => .after fun union => ?_
    dsimp only
    split
    · exact .nil
    · exact .singleton ⟨_, rfl⟩

end Ban

namespace Keyword

variable {P : Passage}

/-- The names of the keywords that pass on violations of their own subject. -/
def passesOn : List String :=
  ["allOf", "dependencies", "extends"]

theorem keeps_shared :
    ∀ e ∈ Registry.shared, (e.1 = Setting.refKeyword → P.Refers) → e.2.Keeps P := by
  simp only [Registry.shared, List.forall_mem_cons]
  exact ⟨fun h => keeps_reference (h rfl), fun _ => keeps_additionalItems,
    fun _ => keeps_additionalProperties, fun _ => Ban.keeps_onObject, fun _ => keeps_enum,
    fun _ => keeps_items, fun _ => keeps_limited _ _ _, fun _ => keeps_limited _ _ _,
    fun _ => keeps_maximum, fun _ => keeps_limited _ _ _, fun _ => keeps_limited _ _ _,
    fun _ => keeps_minimum, fun _ => keeps_pattern, fun _ => keeps_patternProperties,
    fun _ => keeps_uniqueItems, List.forall_mem_nil _⟩

theorem keeps_draft4Only :
    ∀ e ∈ Registry.draft4Only, (e.1 ∈ passesOn → P.Through) → e.2.Keeps P := by
  simp only [Registry.draft4Only, List.forall_mem_cons]
  exact ⟨fun h => keeps_allOf (h (by decide)), fun _ => keeps_anyOf,
    fun h => keeps_dependenciesWith (h (by decide)) _, fun _ => keeps_limited _ _ _,
    fun _ => keeps_limited _ _ _, fun _ => keeps_multipleOf, fun _ => keeps_not,
    fun _ => keeps_oneOf, fun _ => keeps_properties, fun _ => keeps_required,
    fun _ => keeps_type, List.forall_mem_nil _⟩

theorem keeps_draft3Only (hthird : P.Third) :
    ∀ e ∈ Registry.draft3Only, (e.1 ∈ passesOn → P.Through) → e.2.Keeps P := by
  simp only [Registry.draft3Only, List.forall_mem_cons]
  exact ⟨fun h => keeps_dependenciesWith (h (by decide)) _, fun _ => Draft3.keeps_disallow,
    fun _ => keeps_multipleOf, fun h => Draft3.keeps_bases (h (by decide)),
    fun _ => Draft3.keeps_properties hthird, fun _ => Draft3.keeps_type hthird,
    List.forall_mem_nil _⟩

/-- Every keyword of the drafts preserves the property, provided that passing on violations of the
subject does, for the keywords that do so. -/
theorem keeps_of_lookup?_ofDraft {draft : Draft} {name : String} {k : Keyword}
    (h : (Registry.ofDraft draft).lookup? name = some k)
    (hrefers : name = Setting.refKeyword → P.Refers) (hthrough : name ∈ passesOn → P.Through)
    (hthird : draft = .draft3 → P.Third) : k.Keeps P := by
  cases draft with
  | draft3 =>
      rcases List.mem_append.mp (Registry.mem_of_lookup?_draft3 h) with h | h
      · exact keeps_shared _ h hrefers
      · exact keeps_draft3Only (hthird rfl) _ h hthrough
  | draft4 =>
      rcases List.mem_append.mp (Registry.mem_of_lookup?_draft4 h) with h | h
      · exact keeps_shared _ h hrefers
      · exact keeps_draft4Only _ h hthrough

end Keyword

end SchemaCheck
