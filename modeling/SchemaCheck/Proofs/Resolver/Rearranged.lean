import SchemaCheck.Proofs.Json.Rearranged
import SchemaCheck.Proofs.Resolver.SelfContained

/-!
References into a root and into one with rearranged choices, where both roots have the same
locators. A reference that does not lead into the choices leads to the same schema in both roots, or
to corresponding ones.
-/

namespace SchemaCheck.Resolver

open Json (Rearranged)

variable {P : List Json → List Json → Prop} {r : Resolver} {members others : Json.Members}
variable {u scope : Url} {j : Json}

/-- The locator does not lead into the choices of the root. -/
def Spares (r : Resolver) (root : Json) (u : Url) : Prop :=
  r.RootKey root (documentKey u) →
    ∀ tokens, fragmentTokens? (decodedFragment u) = some tokens → Json.Pointer.Spares tokens

theorem rootKey_of_rearranged (h : members.Rearranged P others) {key : String}
    (hkey : r.RootKey (.object members) key) : r.RootKey (.object others) key := by
  cases hkey with
  | base => exact .base
  | id hkeeps hid hjoin =>
      have hsame : Json.Members.find? "id" members = Json.Members.find? "id" others :=
        h.find?_eq (by decide)
      exact .id hkeeps (hsame.symm.trans hid) hjoin

theorem spares_of_rearranged (h : members.Rearranged P others)
    (hspares : r.Spares (.object members) u) : r.Spares (.object others) u :=
  fun hkey => hspares (rootKey_of_rearranged h.flip hkey)

/-- A new cache has the root under its keys and no other documents. -/
theorem lookup?_seed_cases (r : Resolver) (root : Json) (key : String) :
    (r.RootKey root key ∧ Cache.lookup? key (r.seed root).documents = some root) ∨
      (¬ r.RootKey root key ∧ Cache.lookup? key (r.seed root).documents = none) := by
  cases hlookup : Cache.lookup? key (r.seed root).documents with
  | some found =>
      obtain ⟨hroot, hkey⟩ := root_of_mem_seed (Cache.mem_of_lookup? hlookup)
      exact .inl ⟨hkey, congrArg some hroot⟩
  | none =>
      refine .inr ⟨fun hkey => ?_, rfl⟩
      cases hlookup.symm.trans (lookup?_seed_of_rootKey hkey)

theorem exists_targetAt (h : members.Rearranged P others) (hspares : r.Spares (.object members) u)
    (htarget : r.targetAt (.object members) u = .ok j) :
    ∃ j', r.targetAt (.object others) u = .ok j' ∧ Rearranged P j j' := by
  rcases r.lookup?_seed_cases (.object members) (documentKey u) with ⟨hkey, hroot⟩ | ⟨hnot, hnone⟩
  · have hother := lookup?_seed_of_rootKey (rootKey_of_rearranged h hkey)
    have hdocument : r.documentAt (.object members) u = .ok (.object members) := by
      rw [documentAt, hroot]
    have hdocument' : r.documentAt (.object others) u = .ok (.object others) := by
      rw [documentAt, hother]
    rw [targetAt_of_document hdocument] at htarget
    rw [targetAt_of_document hdocument']
    rcases pointed_cases htarget with ⟨htokens, rfl⟩ | ⟨token, rest, htokens, hwalk⟩
    · exact ⟨.object others, by rw [pointed, htokens], .object h⟩
    · obtain ⟨j', hwalk', hj'⟩ :=
        Json.Pointer.walk?_of_rearranged h (hspares hkey _ htokens) hwalk
      refine ⟨j', ?_, hj'⟩
      rw [pointed, htokens]
      dsimp only
      rw [hwalk']
  · have hnone' : Cache.lookup? (documentKey u) (r.seed (.object others)).documents = none := by
      rcases r.lookup?_seed_cases (.object others) (documentKey u) with ⟨hkey, -⟩ | ⟨-, hnone⟩
      · exact absurd (rootKey_of_rearranged h.flip hkey) hnot
      · exact hnone
    refine ⟨j, ?_, .same j⟩
    rw [← htarget, targetAt, targetAt, documentAt, documentAt, hnone, hnone']

/-- A reference leads to corresponding targets in the two roots. -/
theorem exists_resolve (h : members.Rearranged P others) {reference : String} {target : Target}
    (hspares : ∀ u, scope.join reference = .ok u → r.Spares (.object members) u)
    (hresolve : ((r.resolve reference (.ofBase scope)).run (r.seed (.object members))).1 =
      .ok target) :
    ∃ j', ((r.resolve reference (.ofBase scope)).run (r.seed (.object others))).1 =
        .ok ⟨target.url, j'⟩ ∧ Rearranged P target.schema j' := by
  obtain ⟨hjoin, htarget⟩ := resolveUrl_of_resolve hresolve
  have hjoin' : scope.join reference = .ok target.url := hjoin
  rw [run_resolveUrl_seed] at htarget
  obtain ⟨j', hj', hrearranged⟩ := exists_targetAt h (hspares _ hjoin') htarget
  rw [← run_resolveUrl_seed] at hj'
  rcases hrun : (r.resolveUrl target.url).run (r.seed (.object others)) with ⟨result, c⟩
  rw [hrun] at hj'
  cases hj'
  exact ⟨j', by rw [run_resolve_of_ok hjoin hrun], hrearranged⟩

end SchemaCheck.Resolver
