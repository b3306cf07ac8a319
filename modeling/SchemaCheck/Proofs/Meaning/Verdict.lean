import SchemaCheck.Proofs.Meaning.Keyword
import SchemaCheck.Proofs.Visit.Effect

/-!
The verdict on an instance is the meaning of the schema. The proof follows the walk: each keyword is
decided by its clause, a node by the clauses of its members, and a whole schema by induction on its
rank.
-/

namespace SchemaCheck

open Walk

namespace Vocabulary

end Vocabulary

namespace Setting

variable {v : Vocabulary} {t : Setting} {w : Walker} {subject : Subject} {members : Json.Members}

end Setting

namespace Vocabulary

/-- Well-formedness of a schema with one member. -/
theorem WellFormed.single {v : Vocabulary} {name : String} {declared : Json}
    (hname : name ∉ [Setting.refKeyword, "id", Ban.keyword])
    (hshape : ∀ c, v.clause? name = some c → c.shape declared)
    (hinside : ∀ sub ∈ Keyword.applied name declared, v.WellFormed sub) :
    v.WellFormed (.object [(name, declared)]) := by
  simp only [List.mem_cons, List.not_mem_nil, or_false, not_or] at hname
  obtain ⟨href, hid, hban⟩ := hname
  refine .object ?_ ?_ ?_ ?_ ?_
  · exact fun _ hmem => href (congrArg Prod.fst (List.mem_singleton.mp hmem)).symm
  · exact fun _ hmem => hid (congrArg Prod.fst (List.mem_singleton.mp hmem)).symm
  · exact fun _ hmem => hban (congrArg Prod.fst (List.mem_singleton.mp hmem)).symm
  · intro _ _ c hmem hclause
    cases List.mem_singleton.mp hmem
    exact hshape c hclause
  · intro _ _ sub hmem _ hsub
    cases List.mem_singleton.mp hmem
    exact hinside sub hsub

end Vocabulary

end SchemaCheck
