import Mathlib.Data.Fintype.Card
import Mathlib.Data.Set.Finite.Basic
import Mathlib.Logic.Relation
import SchemaCheck.Proofs.Keyword.Rank

/-!
Inlining of references. The keywords of draft 4 have fixed places for schemas. At each of them a
reference is replaced by its target, and so on down to a given depth. If no schema leads back to
itself, some depth leaves no reference.
-/

namespace SchemaCheck

open Relation

namespace Json

/-- Lookup commutes with mapping the values. -/
theorem Members.find?_mapEntries (g : String → Json → Json) (key : String) (members : Members) :
    find? key (members.map fun entry => (entry.1, g entry.1 entry.2)) =
      (find? key members).map (g key) := by
  induction members with
  | nil => rfl
  | cons entry rest ih =>
      obtain ⟨k, declared⟩ := entry
      rw [List.map_cons, find?, find?]
      split
      next heq =>
        subst heq
        rfl
      next => exact ih

def mapValues (f : Json → Json) : Json → Json
  | object members => object (members.map fun member => (member.1, f member.2))
  | j => j

def mapElements (f : Json → Json) : Json → Json
  | array items => array (items.map f)
  | j => j

/-- The function maps objects to objects and fixes all other values. -/
structure Shaping (f : Json → Json) : Prop where
  object : ∀ members, (f (.object members)).isObject
  other : ∀ j, j.isObject = false → f j = j

theorem Shaping.exists_object {f : Json → Json} (hf : Shaping f) (members : Members) :
    ∃ others, f (.object members) = .object others := by
  have hobject := hf.object members
  cases himage : f (.object members) with
  | object others => exact ⟨others, rfl⟩
  | _ =>
      rw [himage] at hobject
      cases hobject

theorem Shaping.isObject {f : Json → Json} (hf : Shaping f) (j : Json) :
    (f j).isObject = j.isObject := by
  cases j with
  | object members => exact hf.object members
  | _ =>
      rw [hf.other _ rfl]

end Json

/-- Where the declared value of a keyword holds schemas. -/
inductive Layout where
  | values
  | elements
  /-- The value itself if it is an object, otherwise its elements. -/
  | either
  | whole
  | nowhere

namespace Layout

def ofKeyword : String → Layout
  | "properties" | "patternProperties" | "dependencies" => values
  | "allOf" | "anyOf" | "oneOf" => elements
  | "items" => either
  | "additionalItems" | "additionalProperties" | "not" => whole
  | _ => nowhere

def places (declared : Json) : Layout → List Json
  | values => declared.values
  | elements => declared.elements
  | either => if declared.isObject then [declared] else declared.elements
  | whole => [declared]
  | nowhere => []

def replace (f : Json → Json) (declared : Json) : Layout → Json
  | values => declared.mapValues f
  | elements => declared.mapElements f
  | either => if declared.isObject then f declared else declared.mapElements f
  | whole => f declared
  | nowhere => declared

variable {layout : Layout} {declared sub : Json} {f : Json → Json}

theorem part_of_mem_places (h : sub ∈ layout.places declared) : Json.PartOf sub declared := by
  cases layout with
  | values => exact Keyword.part_of_mem_values h
  | elements => exact Keyword.part_of_mem_elements h
  | either => exact Keyword.part_of_mem_items h
  | whole => exact Keyword.part_of_mem_singleton h
  | nowhere => cases h

theorem mem_mapElements (h : sub ∈ (declared.mapElements f).elements) :
    ∃ old ∈ declared.elements, sub = f old := by
  cases declared with
  | array items =>
      obtain ⟨old, hold, rfl⟩ := List.mem_map.mp h
      exact ⟨old, hold, rfl⟩
  | _ => cases h

/-- The places of a replaced value are the images of the original places. -/
theorem mem_places_replace (hf : Json.Shaping f)
    (h : sub ∈ layout.places (layout.replace f declared)) :
    ∃ old ∈ layout.places declared, sub = f old := by
  cases layout with
  | values =>
      cases declared with
      | object members =>
          simp only [places, replace, Json.mapValues, Json.values, List.map_map] at h
          obtain ⟨member, hmem, rfl⟩ := List.mem_map.mp h
          exact ⟨member.2, Json.mem_values hmem, rfl⟩
      | _ => cases h
  | elements => exact mem_mapElements h
  | either =>
      by_cases hobject : declared.isObject
      · simp only [places, replace, if_pos hobject, hf.isObject, List.mem_singleton] at h ⊢
        exact ⟨declared, rfl, h⟩
      · have hother : (declared.mapElements f).isObject = false := by
          cases declared <;> simp_all [Json.mapElements, Json.isObject]
        simp only [places, replace, if_neg hobject, hother] at h ⊢
        exact mem_mapElements h
  | whole =>
      exact ⟨declared, List.mem_singleton_self _, List.mem_singleton.mp h⟩
  | nowhere => cases h

end Layout

namespace Keyword

/-- The schemas in the declared value of a draft 4 keyword. -/
def places (name : String) (declared : Json) : List Json :=
  (Layout.ofKeyword name).places declared

def replace (f : Json → Json) (name : String) (declared : Json) : Json :=
  (Layout.ofKeyword name).replace f declared

/-- A node with `f` applied to all schemas in it. -/
def replaceIn (f : Json → Json) (members : Json.Members) : Json.Members :=
  members.map fun entry => (entry.1, replace f entry.1 entry.2)

theorem find?_replaceIn (f : Json → Json) (name : String) (members : Json.Members) :
    Json.Members.find? name (replaceIn f members) =
      (Json.Members.find? name members).map (replace f name) :=
  Json.Members.find?_mapEntries (replace f) name members

/-- Members that hold no schemas are unchanged. -/
theorem find?_replaceIn_of_nowhere {name : String} (hname : Layout.ofKeyword name = .nowhere)
    (f : Json → Json) (members : Json.Members) :
    Json.Members.find? name (replaceIn f members) = Json.Members.find? name members := by
  have hsame : replace f name = id := by
    funext declared
    rw [replace, hname]
    rfl
  rw [find?_replaceIn, hsame, Option.map_id_apply]

/-- The schema with its references inlined, up to `n` steps inwards or along references. A reference
without an object as its target is left as it is. -/
def inlined (leads : String → Option Json.Members) : Nat → Json → Json
  | 0, schema => schema
  | n + 1, .object members =>
    match Json.Members.find? Setting.refKeyword members with
    | none => .object (replaceIn (inlined leads n) members)
    | some reference =>
      match reference.string?.bind leads with
      | some target => inlined leads n (.object target)
      | none => .object members
  | _ + 1, schema => schema

/-- A step from a schema inwards or along a reference. -/
inductive Onward (leads : String → Option Json.Members) : Json → Json → Prop
  | inside {members : Json.Members} {entry : String × Json} {sub : Json} :
      Json.Members.find? Setting.refKeyword members = none → entry ∈ members →
      sub ∈ places entry.1 entry.2 → Onward leads (.object members) sub
  | target {members target : Json.Members} {reference : String} :
      Json.Members.find? Setting.refKeyword members = some (.string reference) →
      leads reference = some target → Onward leads (.object members) (.object target)

/-- Every path of steps from the schema has at most `n` of them. -/
def Ends (leads : String → Option Json.Members) : Nat → Json → Prop
  | 0, schema => schema.isObject = false
  | n + 1, schema => ∀ sub, Onward leads schema sub → Ends leads n sub

variable {leads : String → Option Json.Members} {n : Nat} {schema sub : Json}

theorem shaping_inlined (leads : String → Option Json.Members) (n : Nat) :
    Json.Shaping (inlined leads n) where
  object members := by
    induction n generalizing members with
    | zero => rfl
    | succ n ih =>
        unfold inlined
        split
        · rfl
        · split
          · exact ih _
          · rfl
  other j hj := by
    cases n with
    | zero => rfl
    | succ n =>
        cases j with
        | object members => cases hj
        | _ => rfl

theorem inlined_inside {members : Json.Members}
    (h : Json.Members.find? Setting.refKeyword members = none) (n : Nat) :
    inlined leads (n + 1) (.object members) =
      .object (replaceIn (inlined leads n) members) := by
  rw [inlined, h]

theorem inlined_target {members target : Json.Members} {reference : String}
    (h : Json.Members.find? Setting.refKeyword members = some (.string reference))
    (hleads : leads reference = some target) (n : Nat) :
    inlined leads (n + 1) (.object members) = inlined leads n (.object target) := by
  rw [inlined, h]
  simp only [Json.string?, Option.bind_some, hleads]

theorem Onward.isObject (h : Onward leads schema sub) : schema.isObject := by
  cases h with
  | inside _ _ _ => rfl
  | target _ _ => rfl

/-- The steps from a node lead to its places or to the target of its reference. -/
theorem Onward.cases {members : Json.Members} (h : Onward leads (.object members) sub) :
    (Json.Members.find? Setting.refKeyword members = none ∧
        ∃ entry ∈ members, sub ∈ places entry.1 entry.2) ∨
      ∃ reference target, Json.Members.find? Setting.refKeyword members = some (.string reference) ∧
        leads reference = some target ∧ sub = .object target := by
  cases h with
  | inside hnone hentry hsub => exact .inl ⟨hnone, _, hentry, hsub⟩
  | target hfind hleads => exact .inr ⟨_, _, hfind, hleads, rfl⟩

/-- From a node with a reference the only step leads to the target. -/
theorem Onward.eq_target {members target : Json.Members} {reference : String}
    (h : Onward leads (.object members) sub)
    (hfind : Json.Members.find? Setting.refKeyword members = some (.string reference))
    (hleads : leads reference = some target) : sub = .object target := by
  rcases h.cases with ⟨hnone, -⟩ | ⟨other, found, hother, hfound, rfl⟩
  · rw [hfind] at hnone
    cases hnone
  · rw [hfind] at hother
    cases hother
    rw [hleads] at hfound
    cases hfound
    rfl

namespace Ends

theorem of_not_object (h : schema.isObject = false) (n : Nat) : Ends leads n schema := by
  cases n with
  | zero => exact h
  | succ n =>
      intro sub honward
      rw [honward.isObject] at h
      cases h

theorem succ (h : Ends leads n schema) : Ends leads (n + 1) schema := by
  induction n generalizing schema with
  | zero => exact of_not_object h 1
  | succ n ih => exact fun sub honward => ih (h sub honward)

theorem mono {k : Nat} (hle : n ≤ k) (h : Ends leads n schema) : Ends leads k schema := by
  induction hle with
  | refl => exact h
  | step _ ih => exact ih.succ

theorem of_met (h : Ends leads n schema) (hpath : ReflTransGen (Onward leads) schema sub) :
    Ends leads n sub := by
  induction hpath with
  | refl => exact h
  | tail _ honward ih =>
      cases n with
      | zero =>
          rw [Ends, honward.isObject] at ih
          cases ih
      | succ n => exact (ih _ honward).succ

/-- If paths are bounded, no schema leads back to itself. -/
theorem acyclic (h : Ends leads n schema) : ¬ TransGen (Onward leads) schema schema := by
  intro hcycle
  obtain ⟨next, honward, hback⟩ := TransGen.head'_iff.mp hcycle
  induction n with
  | zero =>
      rw [Ends, honward.isObject] at h
      cases h
  | succ n ih => exact ih ((h next honward).of_met hback)

end Ends

/-- Every reference that can be reached from the schema has an object as its target. -/
def Resolved (leads : String → Option Json.Members) (schema : Json) : Prop :=
  ∀ sub, ReflTransGen (Onward leads) schema sub → ∀ j, sub.get? Setting.refKeyword = some j →
    ∃ reference target, j = .string reference ∧ leads reference = some target

theorem Resolved.onward (h : Resolved leads schema) (honward : Onward leads schema sub) :
    Resolved leads sub :=
  fun inner hpath => h inner (.head honward hpath)

/-- No step leads from a value that is not an object. -/
theorem get?_of_not_object (h : schema.isObject = false)
    (hpath : ReflTransGen (Onward leads) schema sub) (key : String) : sub.get? key = none := by
  rcases hpath.cases_head with rfl | ⟨next, honward, -⟩
  · cases schema with
    | object members => cases h
    | _ => rfl
  · rw [honward.isObject] at h
    cases h

/-- If paths are bounded and references resolve, no reference is left at a place for schemas. -/
theorem Ends.get?_inlined (hends : Ends leads n schema) (h : Resolved leads schema)
    (hpath : ReflTransGen (Onward fun _ => none) (inlined leads n schema) sub) :
    sub.get? Setting.refKeyword = none := by
  induction n generalizing schema with
  | zero => exact get?_of_not_object hends hpath _
  | succ n ih =>
      by_cases hobject : ∃ members, schema = .object members
      · obtain ⟨members, rfl⟩ := hobject
        cases hfind : Json.Members.find? Setting.refKeyword members with
        | none =>
            rw [inlined_inside hfind] at hpath
            rcases hpath.cases_head with rfl | ⟨next, honward, hrest⟩
            · show Json.Members.find? _ _ = none
              rw [find?_replaceIn, hfind, Option.map_none]
            · cases honward with
              | inside _ hentry hsub =>
                  obtain ⟨old, hold, rfl⟩ := List.mem_map.mp hentry
                  obtain ⟨inner, hinner, rfl⟩ :=
                    Layout.mem_places_replace (shaping_inlined leads n) hsub
                  have hstep : Onward leads (.object members) inner := .inside hfind hold hinner
                  exact ih (hends _ hstep) (h.onward hstep) hrest
              | target _ hleads => cases hleads
        | some j =>
            obtain ⟨reference, target, rfl, hleads⟩ := h _ .refl j hfind
            rw [inlined_target hfind hleads] at hpath
            have hstep := Onward.target hfind hleads
            exact ih (hends _ hstep) (h.onward hstep) hpath
      · have hother : schema.isObject = false := by
          cases schema with
          | object members => exact absurd ⟨members, rfl⟩ hobject
          | _ => rfl
        rw [(shaping_inlined leads (n + 1)).other schema hother] at hpath
        exact get?_of_not_object hother hpath _

/-- Finitely many schemas have a common bound. -/
theorem exists_ends_of_mem {p : Json → Prop} {schemas : List Json}
    (h : ∀ sub ∈ schemas, p sub → ∃ n, Ends leads n sub) :
    ∃ n, ∀ sub ∈ schemas, p sub → Ends leads n sub := by
  induction schemas with
  | nil => exact ⟨0, fun _ hsub => nomatch hsub⟩
  | cons first rest ih =>
      obtain ⟨hfirst, hrest⟩ := List.forall_mem_cons.mp h
      obtain ⟨n, hn⟩ := ih hrest
      by_cases hp : p first
      · obtain ⟨k, hk⟩ := hfirst hp
        refine ⟨max k n, List.forall_mem_cons.mpr ⟨fun _ => hk.mono (le_max_left k n), ?_⟩⟩
        exact fun sub hsub hp => (hn sub hsub hp).mono (le_max_right k n)
      · exact ⟨n, List.forall_mem_cons.mpr ⟨fun h => absurd h hp, hn⟩⟩

/-- Within a finite set of schemas, paths are bounded if no schema leads back to itself. -/
theorem exists_ends {known : List Json}
    (hknown : ∀ sub, ReflTransGen (Onward leads) schema sub → sub ∈ known)
    (hacyclic : ∀ sub, ReflTransGen (Onward leads) schema sub → ¬ TransGen (Onward leads) sub sub) :
    ∃ n, Ends leads n schema := by
  let Met := { sub // ReflTransGen (Onward leads) schema sub }
  let later : Met → Met → Prop := fun a b => TransGen (Onward leads) b.1 a.1
  have hfinite : Finite Met := (List.finite_toSet known).subset hknown
  have htrans : IsTrans Met later := ⟨fun _ _ _ hab hbc => hbc.trans hab⟩
  have hirrefl : Std.Irrefl later := ⟨fun a => hacyclic a.1 a.2⟩
  have hwell : WellFounded later := Finite.wellFounded_of_trans_of_irrefl later
  suffices hall : ∀ a : Met, ∃ n, Ends leads n a.1 from hall ⟨schema, .refl⟩
  intro a
  induction a using hwell.induction with
  | _ a ih =>
      obtain ⟨n, hn⟩ := exists_ends_of_mem (p := Onward leads a.1)
        fun sub (_ : sub ∈ known) honward => ih ⟨sub, a.2.tail honward⟩ (.single honward)
      exact ⟨n + 1, fun sub honward => hn sub (hknown sub (a.2.tail honward)) honward⟩

end Keyword

end SchemaCheck
