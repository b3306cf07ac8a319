import SchemaCheck.Proofs.Keyword.Pair
import SchemaCheck.Proofs.Walk.Mirror

/-!
Keywords under a map of schemas. Suppose that a second walker behaves on the image of each schema as
the first walker behaves on the schema itself. Then a keyword of the fourth draft behaves the same
by the first walker on its declared value and by the second walker on that value with the images at
the places for schemas, also if the members around it are mapped.
-/

namespace SchemaCheck

open Walk

/-- The second walker behaves on the images of the schemas as the first one does on the schemas. -/
structure Walker.Mirrors (I J : Memory → Prop) (s t : WalkState) (f : Json → Json)
    (subject : Subject) (schemas : Json → Prop) (w w' : Walker) : Prop where
  descend : ∀ inner sub, subject.Near inner → schemas sub →
    Walk.Mirrors I J s t Violation.Same (w.descend inner sub) (w'.descend inner (f sub))
  branch : ∀ sub, schemas sub →
    Walk.Mirrors I J s t Violation.Same (w.applyBranch subject sub) (w'.applyBranch subject (f sub))

namespace Keyword

/-- The keyword of that name has the same result by any two such walkers. -/
def Mirrors (name : String) (k : Keyword) : Prop :=
  ∀ {I J : Memory → Prop} {s t : WalkState} {f : Json → Json} {w w' : Walker},
    Memory.Versed I → Memory.Versed J → Json.Shaping f →
    ∀ (declared : Json) (subject : Subject) (schema : Json.Members),
      Walker.Mirrors I J s t f subject (· ∈ places name declared) w w' →
      Walk.Mirrors I J s t Violation.Same (k w declared subject schema)
        (k w' (replace f name declared) subject (replaceIn f schema))

/-- Every keyword of the fourth draft mirrors, except for the reference and the ban, which is no
keyword of a schema. -/
theorem mirrors_of_lookup? {name : String} {k : Keyword} (h : Registry.draft4.lookup? name = some k)
    (href : name ≠ Setting.refKeyword) (hban : name ≠ Ban.keyword) : Mirrors name k := by
  intro I J s t f w w' hI hJ hf declared subject schema hw
  have hpairs : Walker.Pairs (.apart I J) s t Violation.Same f subject (Placed name declared) w w' :=
    { descend := fun inner sub hnear hsub => mirrors_iff_pairs.mp (hw.descend inner sub hnear hsub.1)
      branch := fun sub hsub => mirrors_iff_pairs.mp (hw.branch sub hsub.1) }
  exact mirrors_iff_pairs.mpr <| pairs_of_lookup? h href hban (regular_apart hI hJ)
    Violation.likeness_same hf declared subject schema hpairs

end Keyword

end SchemaCheck
