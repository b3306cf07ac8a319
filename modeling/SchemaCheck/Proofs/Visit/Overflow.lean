import SchemaCheck.Proofs.Resolver.Horizon
import SchemaCheck.Proofs.Resolver.Uncached
import SchemaCheck.Proofs.Visit.Link

/-!
The only operation of a walk that can break it off: the remainder of the least signed integer by
minus one. It requires that integer in the instance and that divisor in a document.
-/

namespace SchemaCheck

open Walk

/-- An object in the value declares minus one as a divisor, under a name that the draft has for
divisors. -/
def Draft.DividesByMinusOne (draft : Draft) (j : Json) : Prop :=
  ∃ members, Json.PartOf (.object members) j ∧
    ∃ name, (Registry.ofDraft draft).lookup? name = some Keyword.multipleOf ∧
      (name, .minusOne) ∈ members

/-- The least signed integer is part of the instance, and a document declares minus one as a
divisor. -/
structure Horizon.Overflows (h : Horizon) (draft : Draft) (instance_ : Json) : Prop where
  least : Json.PartOf .leastSigned instance_
  divisor : ∃ document ∈ h.documents, draft.DividesByMinusOne document

/-- The documents of a horizon are the root and those at the locators. -/
theorem Resolver.mem_documents_horizon {r : Resolver} {root document : Json} {urls : List Url}
    (h : document ∈ (r.horizon root urls).documents) :
    document = root ∨ ∃ u ∈ urls, r.fetched u = .ok document := by
  rcases List.mem_cons.mp h with rfl | h
  · exact .inl rfl
  rcases List.mem_append.mp h with hseeded | hfetched
  · obtain ⟨entry, hentry, rfl⟩ := List.mem_map.mp hseeded
    exact .inl (root_of_mem_seed hentry).1
  · obtain ⟨u, hmem, hdocument⟩ := List.mem_filterMap.mp hfetched
    refine .inr ⟨u, hmem, ?_⟩
    cases hrun : r.fetched u with
    | ok found =>
        rw [hrun] at hdocument
        exact congrArg Except.ok (Option.some.inj hdocument)
    | error e =>
        rw [hrun] at hdocument
        cases hdocument

namespace Setting

variable {h : Horizon} {t : Setting} {draft : Draft} {instance_ : Json}

/-- The keyword of a name for divisors is the one for divisibility. -/
theorem lookup?_of_mem_divisors {name : String} (hname : name ∈ Keyword.divisors)
    (hknown : (Registry.ofDraft draft).contains name) :
    (Registry.ofDraft draft).lookup? name = some Keyword.multipleOf := by
  unfold Keyword.divisors at hname
  cases draft with
  | draft3 =>
      rcases List.mem_pair.mp hname with rfl | rfl
      · exact absurd hknown (by decide)
      · rfl
  | draft4 =>
      rcases List.mem_pair.mp hname with rfl | rfl
      · rfl
      · exact absurd hknown (by decide)

/-- The members of a node that a walk applies are members of an object in a document. -/
theorem Overflows.horizon (ht : t.registry = .ofDraft draft) {members : Json.Members} {value : Json}
    (hknown : h.Known (.object members)) (hvalue : Json.PartOf value instance_)
    (hoverflows : t.Overflows value members) : h.Overflows draft instance_ := by
  obtain ⟨rfl, name, hname, hcontains, hmem⟩ := hoverflows
  refine ⟨hvalue, ?_⟩
  rcases hknown with hpart | ⟨k, -, htyped⟩
  · cases hpart with
    | item hdocument hpart =>
        rw [ht] at hcontains
        exact ⟨_, hdocument, members, hpart, name, lookup?_of_mem_divisors hname hcontains, hmem⟩
  · -- What `disallow` puts together has no divisor.
    obtain rfl : members = [("type", .array [k])] := Json.object.inj htyped
    cases List.mem_singleton.mp hmem

/-- A walk that breaks off has met the divisor and the value. -/
theorem linked_visit_overflow (ht : t.registry = .ofDraft draft) (hcycles : t.findsCycles = true)
    (hr : t.resolver.Confined h) (depth : Nat) {s : WalkState} {subject : Subject} {schema : Json}
    (override : Option Bool) (hknown : h.Known schema)
    (hsubject : Json.PartOf subject.value instance_) :
    Linked (.same (·.cache.Within h) fun e => e = .remainderOverflow → h.Overflows draft instance_)
      s s (t.visit depth subject schema override) (t.visit depth subject schema override) := by
  have hlearning := Memory.learning_within hr
  induction depth generalizing s subject schema override with
  | zero => exact .fail nofun
  | succ depth ih =>
      refine linked_applySchema_of_alike ht hlearning.compile (fun _ => nofun) ?_ hcycles hcycles ?_
      · rintro members rfl e hraises herror
        exact (hraises.overflow herror).horizon ht hknown hsubject
      · rintro members rfl own relieved -
        exact {
          resolve := fun reference m _ => hlearning.resolve reference _ m
          agree := fun _ _ _ _ => rfl
          visit := fun inner sub override' hnear hinside =>
            ih override' (hknown.inside hinside) (hnear.part.trans hsubject)
          follow := fun reference target m _ hm hresolved _ => by
            obtain ⟨-, -, hpart⟩ := (t.resolver.within_resolve hr hm reference _).2 target hresolved
            exact ih _ (.inl hpart) hsubject }

end Setting

end SchemaCheck
