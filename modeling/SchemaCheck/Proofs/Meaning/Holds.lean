import SchemaCheck.Proofs.Meaning.Clause

/-!
The recursive equation of `Holds`: a schema holds iff all its clauses do, where the schemas inside
are again interpreted by `Holds`. A clause refers only to schemas that its keyword applies, and
these have a smaller rank than the schema around them.
-/

namespace SchemaCheck

/-- The clause refers only to schemas that its keyword applies. -/
def Clause.Local (name : String) (c : Clause) : Prop :=
  ∀ (h h' : Json → Json → Prop) declared siblings value, c.shape declared →
    (∀ sub ∈ Keyword.applied name declared, ∀ part, h sub part ↔ h' sub part) →
    c.asks h declared siblings value → c.asks h' declared siblings value

namespace Clause

variable {name : String} {holds holds' : Json → Json → Prop} {declared value : Json}

namespace Draft3

end Draft3

end Clause

namespace Vocabulary

/-- Every clause refers only to schemas that its keyword applies. -/
def Local (v : Vocabulary) : Prop :=
  ∀ entry ∈ v.clauses, entry.2.Local entry.1

variable {v : Vocabulary}

end Vocabulary

end SchemaCheck
