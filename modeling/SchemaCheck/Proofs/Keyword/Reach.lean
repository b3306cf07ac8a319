import SchemaCheck.Proofs.Json.Part
import SchemaCheck.Proofs.Registry
import SchemaCheck.Proofs.Walk.Program
import SchemaCheck.Visit

/-!
The reach of each keyword. Every keyword of the two drafts is a program that applies only schemas at
the expected places of its declared value, and for `disallow` also a schema with a `type` around
each member. Only the keyword of references follows references, and only the keyword of divisors
takes remainders.
-/

namespace SchemaCheck

open Walk

namespace Json

def elements : Json → List Json
  | array items => items
  | _ => []

def values : Json → List Json
  | object members => members.map (·.2)
  | _ => []

def isObject : Json → Bool
  | object _ => true
  | _ => false

theorem mem_values {key : String} {j : Json} {members : Members} (h : (key, j) ∈ members) :
    j ∈ values (.object members) :=
  List.mem_map.mpr ⟨_, h, rfl⟩

/-- The least signed integer of 64 bits. -/
def leastSigned : Json :=
  number (.integer ⟨-0x8000000000000000, by decide, by decide⟩)

def minusOne : Json :=
  number (.integer ⟨-1, by decide, by decide⟩)

end Json

namespace Keyword

/-- The names of the keywords that declare a divisor. -/
def divisors : List String :=
  ["multipleOf", "divisibleBy"]

/-- The schemas that the keyword `name` applies for its declared value. -/
def applied (name : String) (declared : Json) : List Json :=
  match name with
  | "properties" | "patternProperties" => declared.values
  | "dependencies" => declared.values.filter Json.isObject
  | "allOf" | "anyOf" | "oneOf" => declared.elements
  | "items" | "extends" => if declared.isObject then [declared] else declared.elements
  | "additionalItems" | "additionalProperties" => [declared].filter Json.isObject
  | "not" => [declared]
  | "type" => (Draft3.members declared).filter Json.isObject
  | "disallow" =>
    (Draft3.members declared).map fun disallowed => .object [("type", .array [disallowed])]
  | _ => []

/-- The reach of the keyword `name`. -/
def reach (name : String) (declared : Json) (subject : Subject) : Reach :=
  ⟨subject, (· ∈ applied name declared),
    fun reference => name = Setting.refKeyword ∧ declared = .string reference, fun _ => False,
    name ∈ divisors ∧ declared = .minusOne ∧ subject.value = .leastSigned⟩

/-- The keyword is a program within the reach of its name. -/
def Reaches (name : String) (k : Keyword) : Prop :=
  ∀ declared subject schema, Program (reach name declared subject) fun w =>
    k w declared subject schema

variable (name : String)

theorem program_message {r : Reach} {c : Prop} [Decidable c] (message : String) :
    Program r fun _ => (if c then return [.ofMessage message] else return [] :
      Walk (List Violation)) :=
  .ite (.pure _) .nil

theorem reaches_limited (count : Count) (fails : Nat → Nat → Bool) (complaint : String) :
    Reaches name (limited count fails complaint) := by
  intro declared subject schema
  unfold limited
  cases count subject.value with
  | none => exact .nil
  | some n =>
      cases limit? declared with
      | none => exact .nil
      | some limit => exact program_message _

theorem reaches_minimum : Reaches name minimum := by
  intro declared subject schema
  unfold minimum
  generalize subject.value = value
  cases declared with
  | number limit =>
      cases value with
      | number n => exact program_message _
      | _ => exact .nil
  | _ => exact .nil

theorem reaches_maximum : Reaches name maximum := by
  intro declared subject schema
  unfold maximum
  generalize subject.value = value
  cases declared with
  | number limit =>
      cases value with
      | number n => exact program_message _
      | _ => exact .nil
  | _ => exact .nil

/-- The keyword reads only its subject and applies nothing. -/
def Alone (k : Keyword) : Prop :=
  ∀ declared subject schema, Program (.none subject) fun w => k w declared subject schema

theorem Reaches.alone {k : Keyword} (hk : Reaches "" k) : Alone k :=
  fun declared subject schema =>
    (hk declared subject schema).mono rfl (fun _ h => nomatch h)
      (fun _ h => absurd h.1 (by decide)) (fun _ h => h) fun _ => trivial

theorem plain_remainderOverflow : Failure.remainderOverflow.Plain :=
  ⟨by simp, fun ⟨_, h⟩ => nomatch h⟩

/-- A structural error other than a reference cycle is plain. -/
theorem plain_schema {e : SchemaError} (h : ∀ r, e ≠ .invalidReference r "reference cycle") :
    (Failure.schema e).Plain :=
  ⟨by simp, fun ⟨r, hr⟩ => h r (Failure.schema.inj hr)⟩

/-- A signed integer is determined by its value. -/
theorem number_of_signed? {n : Json.Number} {m : Integer} (h : n.signed? = some m.val) :
    n = .integer m := by
  cases n with
  | integer n =>
      have hval : n.val = m.val := by
        unfold Json.Number.signed? at h
        grind
      cases n
      cases m
      cases hval
      rfl
  | double x => cases h

/-- A divisibility check fails only for the least signed integer and minus one. -/
theorem isMultiple_eq_error {n d : Json.Number} {e : Failure} (h : isMultiple n d = .error e) :
    e = .remainderOverflow ∧ Json.number d = .minusOne ∧ Json.number n = .leastSigned := by
  unfold isMultiple at h
  split at h
  next a b hn hd =>
    split at h
    · cases h
    · split at h
      next hoverflow =>
        cases h
        obtain ⟨rfl, rfl⟩ := hoverflow
        exact ⟨rfl, congrArg Json.number (number_of_signed? hd),
          congrArg Json.number (number_of_signed? hn)⟩
      · cases h
  · split at h
    · cases h
    · split at h
      · cases h
      · split at h <;> cases h

theorem program_multipleOf {r : Reach} {declared : Json} {subject : Subject}
    (hoverflows : declared = .minusOne → subject.value = .leastSigned → r.overflows)
    (schema : Json.Members) : Program r fun w => multipleOf w declared subject schema := by
  unfold multipleOf
  generalize subject.value = value at hoverflows
  cases declared with
  | number d =>
      cases value with
      | number n =>
          dsimp only
          cases h : isMultiple n d with
          | ok holds =>
              cases holds with
              | true => exact .nil
              | false => exact .pure _
          | error e =>
              obtain ⟨rfl, hd, hn⟩ := isMultiple_eq_error h
              exact .fail ⟨plain_remainderOverflow, fun _ => hoverflows hd hn⟩
      | _ => exact .nil
  | _ => exact .nil

theorem alone_multipleOf : Alone multipleOf :=
  fun _ _ schema => program_multipleOf (fun _ _ => trivial) schema

theorem reaches_multipleOf (hname : name ∈ divisors) : Reaches name multipleOf := by
  intro declared subject schema
  refine program_multipleOf (fun hdeclared hvalue => ?_) schema
  exact ⟨hname, hdeclared, hvalue⟩

theorem reaches_pattern : Reaches name pattern := by
  intro declared subject schema
  unfold pattern
  generalize subject.value = value
  cases declared with
  | string pattern =>
      cases value with
      | string text => exact .bind (.regex pattern) fun r => .ite .nil (.pure _)
      | _ => exact .nil
  | _ => exact .nil

theorem plain_hasType {value : Json} {type : String} {e : SchemaError}
    (h : hasType value type = .error e) : (Failure.schema e).Plain := by
  unfold hasType at h
  split at h
  · cases h
  · cases h
    exact plain_schema fun _ h => nomatch h

theorem plain_hasSomeType {value : Json} {types : List String} {e : SchemaError}
    (h : hasSomeType value types = .error e) : (Failure.schema e).Plain := by
  induction types with
  | nil => cases h
  | cons type rest ih =>
      unfold hasSomeType at h
      split at h
      next => cases h
      next => exact ih h
      next e' he =>
        cases h
        exact plain_hasType he

theorem reaches_type : Reaches name type := by
  intro declared subject schema
  exact .bind (.ofExcept fun _ => plain_hasSomeType) fun holds => .ite .nil (.pure _)

theorem reaches_enum : Reaches name enum := by
  intro declared subject schema
  unfold enum
  cases declared with
  | array allowed => exact .ite .nil (.pure _)
  | _ => exact .nil

theorem reaches_uniqueItems : Reaches name uniqueItems := by
  intro declared subject schema
  unfold uniqueItems
  generalize subject.value = value
  cases declared with
  | bool wanted =>
      cases wanted with
      | true =>
          cases value with
          | array elements => exact program_message _
          | _ => exact .nil
      | false => exact .nil
  | _ => exact .nil

theorem reaches_required : Reaches name required := by
  intro declared subject schema
  unfold required
  cases subject.value with
  | object object => exact .pure _
  | _ => exact .nil

theorem reaches_items : Reaches "items" items := by
  intro declared subject schema
  unfold items
  cases hvalue : subject.value with
  | array elements =>
      cases declared with
      | array schemas =>
          refine .collect fun entry hentry => ?_
          obtain ⟨⟨element, i⟩, schema⟩ := entry
          obtain ⟨helement, hschema⟩ := List.of_mem_zip hentry
          have hitem := List.mem_zipIdx_iff_getElem?.mp helement
          exact .descendAt (.item hvalue hitem) hschema _ _
      | object members =>
          refine .collect fun entry hentry => ?_
          have hitem := List.mem_zipIdx_iff_getElem?.mp hentry
          exact .descendAt (.item hvalue hitem) (List.mem_singleton_self _) _ _
      | _ => exact .nil
  | _ => exact .nil

/-- A pair of a zipped list consists of the elements of the two lists at one index. -/
theorem getElem?_of_mem_zip {α β : Type} {l : List α} {m : List β} {a : α} {b : β} {i : Nat}
    (h : ((a, i), b) ∈ l.zipIdx.zip m) : l[i]? = some a ∧ m[i]? = some b := by
  obtain ⟨j, hj⟩ := List.getElem?_of_mem h
  obtain ⟨ha, hb⟩ := List.getElem?_zip_eq_some.mp hj
  rw [List.getElem?_zipIdx] at ha
  obtain ⟨_, hget, hpair⟩ := Option.map_eq_some_iff.mp ha
  obtain ⟨rfl, hindex⟩ := Prod.mk.inj hpair
  obtain rfl : j = i := by omega
  exact ⟨hget, hb⟩

/-- An element of an indexed list with its first elements dropped keeps its index in the whole
list. -/
theorem getElem?_of_mem_zipIdx_drop {α : Type} {l : List α} {a : α} {n i : Nat}
    (h : (a, i) ∈ (l.drop n).zipIdx n) : l[i]? = some a := by
  obtain ⟨hle, hget⟩ := List.mk_mem_zipIdx_iff_le_and_getElem?_sub.mp h
  rwa [List.getElem?_drop, Nat.add_sub_cancel' hle] at hget

theorem reaches_additionalItems : Reaches "additionalItems" additionalItems := by
  intro declared subject schema
  unfold additionalItems
  cases hvalue : subject.value with
  | array elements =>
      cases Json.Members.find? "items" schema with
      | none => exact .nil
      | some positional =>
          cases positional with
          | array positional =>
              cases declared with
              | object members =>
                  refine .collect fun entry hentry => ?_
                  have hitem := getElem?_of_mem_zipIdx_drop hentry
                  exact .descendAt (.item hvalue hitem) (List.mem_singleton_self _) _ _
              | bool allowed =>
                  cases allowed with
                  | true => exact .nil
                  | false => exact .ite .nil (.pure _)
              | _ => exact .nil
          | _ => exact .nil
  | _ => exact .nil

theorem program_additionalKeys {r : Reach} (object schema : Json.Members) :
    Program r fun _ => additionalKeys object schema :=
  .bind (.each fun pattern _ => .regex pattern) fun _ => .pure _

theorem reaches_properties : Reaches "properties" properties := by
  intro declared subject schema
  unfold properties
  cases declared with
  | object properties =>
      cases hvalue : subject.value with
      | object object =>
          refine .collect fun entry hentry => ?_
          dsimp only
          cases hfind : Json.Members.find? entry.1 object with
          | some value =>
              have hmember := Json.Members.mem_of_find? hfind
              exact .descendAt (.member hvalue hmember) (Json.mem_values hentry) _ _
          | none => exact .nil
      | _ => exact .nil
  | _ => exact .nil

theorem reaches_patternProperties : Reaches "patternProperties" patternProperties := by
  intro declared subject schema
  unfold patternProperties
  cases declared with
  | object patterns =>
      cases hvalue : subject.value with
      | object object =>
          refine .collect fun entry hentry => .bind (.regex _) fun r => ?_
          refine .collect fun member hmember => .ite ?_ .nil
          exact .descendAt (.member hvalue hmember) (Json.mem_values hentry) _ _
      | _ => exact .nil
  | _ => exact .nil

theorem reaches_additionalProperties :
    Reaches "additionalProperties" additionalProperties := by
  intro declared subject schema
  unfold additionalProperties
  cases hvalue : subject.value with
  | object object =>
      refine .bind (program_additionalKeys object schema) fun extras => ?_
      cases declared with
      | object members =>
          refine .collect fun key _ => ?_
          cases hfind : Json.Members.find? key object with
          | some value =>
              have hmember := Json.Members.mem_of_find? hfind
              exact .descendAt (.member hvalue hmember) (List.mem_singleton_self _) _ _
          | none => exact .nil
      | bool allowed =>
          cases allowed with
          | true => exact .nil
          | false => exact .ite .nil (.pure _)
      | _ => exact .nil
  | _ => exact .nil

theorem reaches_dependenciesWith (single : Bool) :
    Reaches "dependencies" (dependenciesWith single) := by
  intro declared subject schema
  unfold dependenciesWith
  cases declared with
  | object dependencies =>
      cases subject.value with
      | object object =>
          refine .collect fun entry hentry => .ite .nil ?_
          obtain ⟨property, dependency⟩ := entry
          cases dependency with
          | object members =>
              have happlied : .object members ∈ applied "dependencies" (.object dependencies) :=
                List.mem_filter.mpr ⟨Json.mem_values hentry, rfl⟩
              exact .descendAt .here happlied _ _
          | array names => exact .pure _
          | string name => exact .pure _
          | _ => exact .nil
      | _ => exact .nil
  | _ => exact .nil

/-- An indexed branch of a combinator is the item of its value at that index. -/
theorem mem_of_mem_zipIdx {branches : List Json} {branch : Json × Nat}
    (h : branch ∈ branches.zipIdx) : branch.1 ∈ branches :=
  List.fst_mem_of_mem_zipIdx h

theorem reaches_allOf : Reaches "allOf" allOf := by
  intro declared subject schema
  unfold allOf
  cases declared with
  | array branches =>
      exact .collect fun branch hbranch => .descendBranch (mem_of_mem_zipIdx hbranch) _
  | _ => exact .nil

theorem program_firstValid {r : Reach} {apply : Json × Nat → Walker → Walk (List Violation)}
    {branches : List (Json × Nat)} (h : ∀ branch ∈ branches, Program r (apply branch)) :
    Program r fun w => firstValid (fun branch => apply branch w) branches := by
  induction branches with
  | nil => exact .pure _
  | cons branch rest ih =>
      refine .bind (h branch List.mem_cons_self) fun violations => .ite (.pure _) ?_
      refine .bind (ih fun other hother => h other (List.mem_cons_of_mem _ hother)) fun found => ?_
      cases found with
      | ok i => exact .pure _
      | error more => exact .pure _

theorem reaches_anyOf : Reaches "anyOf" anyOf := by
  intro declared subject schema
  unfold anyOf
  cases declared with
  | array branches =>
      refine .bind (program_firstValid fun branch hbranch =>
        .descendBranch (mem_of_mem_zipIdx hbranch) _) fun found => ?_
      cases found with
      | ok _ => exact .nil
      | error context => exact .pure _
  | _ => exact .nil

theorem program_validAmong {r : Reach} {branches : List Json}
    (h : ∀ branch ∈ branches, r.schemas branch) :
    Program r fun w => validAmong w r.subject branches := by
  induction branches with
  | nil => exact .pure _
  | cons branch rest ih =>
      refine .bind (.isValid .here (h branch List.mem_cons_self)) fun holds => ?_
      refine .bind (ih fun other hother => h other (List.mem_cons_of_mem _ hother)) fun more => ?_
      exact .pure _

theorem reaches_oneOf : Reaches "oneOf" oneOf := by
  intro declared subject schema
  unfold oneOf
  cases declared with
  | array branches =>
      refine .bind (program_firstValid fun branch hbranch =>
        .descendAt .here (mem_of_mem_zipIdx hbranch) _ _) fun found => ?_
      cases found with
      | error context => exact .pure _
      | ok first =>
          refine .bind (program_validAmong fun branch hbranch => List.mem_of_mem_drop hbranch)
            fun others => .ite .nil (.pure _)
  | _ => exact .nil

theorem reaches_not : Reaches "not" not := by
  intro declared subject schema
  exact .bind (.isValid .here (List.mem_singleton_self _)) fun holds => .ite (.pure _) .nil

theorem reaches_reference : Reaches "$ref" reference := by
  intro declared subject schema
  unfold reference
  cases declared with
  | string reference => exact .refer ⟨rfl, rfl⟩
  | _ => exact .failWith (plain_schema fun _ h => by simp at h)

namespace Draft3

theorem mem_members_of_mem_zipIdx {declared : Json} {entry : Json × Nat}
    (h : entry ∈ (members declared).zipIdx) : entry.1 ∈ members declared :=
  List.fst_mem_of_mem_zipIdx h

/-- The search through types applies only schemas among the types. -/
theorem program_search {r : Reach} {types : List (Json × Nat)}
    (h : ∀ entry ∈ types, entry.1.isObject → r.schemas entry.1) :
    Program r fun w => search w r.subject types := by
  induction types with
  | nil => exact .pure _
  | cons entry rest ih =>
      obtain ⟨type, i⟩ := entry
      have hrest : Program r fun w => search w r.subject rest :=
        ih fun other hother => h other (List.mem_cons_of_mem _ hother)
      cases type with
      | string name =>
          unfold search
          refine .ite (.pure _) (.bind (.ofExcept fun _ => plain_hasType) fun holds => ?_)
          exact .ite (.pure _) hrest
      | object schema =>
          have hschema := h (.object schema, i) List.mem_cons_self rfl
          unfold search
          refine .bind (.descendAt .here hschema _ _) fun violations => .ite (.pure _) ?_
          exact hrest.map _
      | _ => exact hrest

theorem reaches_type : Reaches "type" type := by
  intro declared subject schema
  have hschemas : ∀ entry ∈ (members declared).zipIdx, entry.1.isObject →
      entry.1 ∈ applied "type" declared := fun entry hentry hobject =>
    List.mem_filter.mpr ⟨mem_members_of_mem_zipIdx hentry, hobject⟩
  refine .bind (program_search hschemas) fun found => ?_
  cases found with
  | none => exact .nil
  | some context => exact .pure _

theorem reaches_disallow : Reaches "disallow" disallow := by
  intro declared subject schema
  refine .collect fun disallowed hmem => ?_
  have happlied : .object [("type", .array [disallowed])] ∈ applied "disallow" declared :=
    List.mem_map.mpr ⟨disallowed, hmem, rfl⟩
  exact .bind (.isValid .here happlied) fun holds => program_message _

theorem reaches_bases : Reaches "extends" bases := by
  intro declared subject schema
  unfold bases
  cases declared with
  | object members => exact .descend .here (List.mem_singleton_self _)
  | array parents =>
      exact .collect fun parent hparent =>
        .descendAt .here (mem_of_mem_zipIdx hparent) _ _
  | _ => exact .nil

theorem reaches_properties : Reaches "properties" properties := by
  intro declared subject schema
  unfold properties
  cases declared with
  | object properties =>
      cases hvalue : subject.value with
      | object object =>
          refine .collect fun entry hentry => ?_
          dsimp only
          cases hfind : Json.Members.find? entry.1 object with
          | some value =>
              have hmember := Json.Members.mem_of_find? hfind
              exact .descendAt (.member hvalue hmember) (Json.mem_values hentry) _ _
          | none => exact .pure _
      | _ => exact .nil
  | _ => exact .nil

end Draft3

end Keyword

namespace Ban

theorem reaches_onObject (name : String) : Keyword.Reaches name onObject := by
  intro declared subject schema
  unfold onObject
  generalize subject.value = value
  cases declared with
  | bool effective =>
      cases effective with
      | true =>
          cases value with
          | object object =>
              refine .ite (.bind (Keyword.program_additionalKeys object schema) fun extras => ?_)
                .nil
              exact .ite .nil (.pure _)
          | _ => exact .nil
      | false => exact .nil
  | _ => exact .nil

theorem program_branchTarget {r : Reach} {branch : Json}
    (h : ∀ reference, (branch.get? "$ref").bind Json.string? = some reference →
      r.looks reference) : Program r fun w => branchTarget w branch := by
  unfold branchTarget
  cases hreference : (branch.get? "$ref").bind Json.string? with
  | none => exact .pure _
  | some reference => exact .map (.resolve (h reference hreference)) _

theorem program_alternation {r : Reach} (patterns : List String) :
    Program r fun _ => alternation patterns :=
  .ite (.pure _) (.map (.regex _) _)

/-- The check of a union of branches applies none of them. -/
theorem program_onBranches {r : Reach} (effective : Bool) (subject : Subject)
    {branches : List Json}
    (h : ∀ branch ∈ branches, ∀ reference, (branch.get? "$ref").bind Json.string? = some reference →
      r.looks reference) : Program r fun w => onBranches w effective subject branches := by
  unfold onBranches
  cases candidates? subject.value with
  | none => exact .nil
  | some candidates =>
      refine .bind (.each fun branch hbranch => program_branchTarget (h branch hbranch)) fun targets => ?_
      exact .bind (program_alternation _) fun union => .ite .nil (.pure _)

end Ban

namespace Keyword

theorem reaches_shared : ∀ e ∈ Registry.shared, Reaches e.1 e.2 := by
  simp only [Registry.shared, List.forall_mem_cons]
  exact ⟨reaches_reference, reaches_additionalItems, reaches_additionalProperties,
    Ban.reaches_onObject _, reaches_enum _, reaches_items, reaches_limited _ _ _ _,
    reaches_limited _ _ _ _, reaches_maximum _, reaches_limited _ _ _ _, reaches_limited _ _ _ _,
    reaches_minimum _, reaches_pattern _, reaches_patternProperties, reaches_uniqueItems _,
    List.forall_mem_nil _⟩

theorem reaches_draft4Only : ∀ e ∈ Registry.draft4Only, Reaches e.1 e.2 := by
  simp only [Registry.draft4Only, List.forall_mem_cons]
  exact ⟨reaches_allOf, reaches_anyOf, reaches_dependenciesWith _, reaches_limited _ _ _ _,
    reaches_limited _ _ _ _, reaches_multipleOf _ (by decide), reaches_not, reaches_oneOf, reaches_properties,
    reaches_required _, reaches_type _, List.forall_mem_nil _⟩

theorem reaches_draft3Only : ∀ e ∈ Registry.draft3Only, Reaches e.1 e.2 := by
  simp only [Registry.draft3Only, List.forall_mem_cons]
  exact ⟨reaches_dependenciesWith _, Draft3.reaches_disallow, reaches_multipleOf _ (by decide),
    Draft3.reaches_bases, Draft3.reaches_properties, Draft3.reaches_type, List.forall_mem_nil _⟩

/-- Every keyword that a draft knows is a program within the reach of its name. -/
theorem reaches_of_lookup?_ofDraft {draft : Draft} {name : String} {k : Keyword}
    (h : (Registry.ofDraft draft).lookup? name = some k) : Reaches name k :=
  Registry.of_lookup?_ofDraft reaches_shared reaches_draft4Only reaches_draft3Only h

/-- Every keyword of a preset registry is a program within the reach of the name that the drafts
have for it, whatever name it is registered under. -/
theorem exists_reaches {r : Registry} (hr : r.Preset) {entry : String × Keyword}
    (h : entry ∈ r.entries) : ∃ own, Reaches own entry.2 := by
  obtain ⟨own, hmem⟩ := hr entry h
  rcases List.mem_append.mp hmem with h | h
  · exact ⟨own, reaches_shared _ h⟩
  · rcases List.mem_append.mp h with h | h
    · exact ⟨own, reaches_draft4Only _ h⟩
    · exact ⟨own, reaches_draft3Only _ h⟩

end Keyword

end SchemaCheck
