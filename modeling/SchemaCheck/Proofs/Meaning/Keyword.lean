import SchemaCheck.Proofs.Json.Exact
import SchemaCheck.Proofs.Meaning.Holds
import SchemaCheck.Proofs.Regex.Compiles
import SchemaCheck.Proofs.Walk.Calm

/-!
The keywords of the two drafts decide their clauses. A keyword finds no violation iff the condition
of its clause is met, provided that the walker decides whether the applied schemas hold. Keywords
that read the members around them also need these to have allowed values.
-/

namespace SchemaCheck

open Walk Clause

namespace Keyword

/-- The surroundings of a keyword: the members around it, and a walker that decides whether the
applied schemas hold. -/
structure Site (name : String) (w : Walker) (holds : Json → Json → Prop) (declared : Json)
    (siblings : Json.Members) (subject : Subject) : Prop where
  member : (name, declared) ∈ siblings
  around : (Json.object siblings).Exact
  exact : subject.value.Exact
  patterns : ∀ patterns, ("patternProperties", .object patterns) ∈ siblings →
    ∀ entry ∈ patterns, (Regex.parse? entry.1).isSome
  applies : ∀ sub ∈ applied name declared, ∀ part, subject.Near part →
    Settles (holds sub part.value) (w.visit part sub none)

namespace Site

variable {name : String} {w : Walker} {holds : Json → Json → Prop} {declared : Json}
  {siblings : Json.Members} {subject part : Subject} {sub : Json}

theorem descendAt (h : Site name w holds declared siblings subject)
    (hsub : sub ∈ applied name declared) (hpart : subject.Near part)
    (path schemaPath : Option Step) :
    Settles (holds sub part.value) (w.descendAt part sub path schemaPath) :=
  Settles.map (h.applies sub hsub part hpart) _

/-- If the ban is off, branches are applied like any other schema. -/
theorem descendBranch (h : Site name w holds declared siblings subject)
    (hsub : sub ∈ applied name declared) (i : Nat) :
    Settles (holds sub subject.value) (w.descendBranch subject sub i) := by
  refine Settles.map (fun s hs => ?_) _
  show ∃ a t, w.visit subject sub (if s.frame.suppressBranchBan then some false else none) s =
    (.ok a, t) ∧ _
  rw [hs.frame]
  exact h.applies sub hsub subject .here s hs

theorem isValid (h : Site name w holds declared siblings subject)
    (hsub : sub ∈ applied name declared) :
    Yields (fun valid => valid = true ↔ holds sub subject.value) (w.isValid subject sub) :=
  Yields.map (h.applies sub hsub subject .here) fun _ hvs => List.isEmpty_iff.trans hvs

end Site

variable (name : String)

end Keyword

end SchemaCheck
