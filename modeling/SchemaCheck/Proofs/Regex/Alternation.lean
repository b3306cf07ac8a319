import SchemaCheck.Proofs.Regex.Compiles
import SchemaCheck.Proofs.Regex.Reading

/-!
Patterns joined by bars. If each pattern but the last is read to its end in front of its bar, the
joined text is parsed to the alternation of the patterns, and it matches a text iff one of the
patterns does. This fails for a pattern that ends in an open group, class, escape or comment, or
that changes flags for what follows it; the other patterns are `Closed`. A pattern is `Hopeless` if
it does not compile and no text after a bar changes that.
-/

namespace SchemaCheck.Regex

open SchemaCheck.Regex.Parser

section Piled

theorem nesting_le (r : Regex) : r.nesting ≤ r.alternativeNesting + 1 := by
  have hlevel := Bool.toNat_le r.isAlt
  unfold alternativeNesting
  omega

end Piled

deriving instance DecidableEq for Flags

/-- The result of reading a pattern by itself. -/
def reading? (pattern : String) : Option (Regex × Context × List Char) :=
  parts (2 * pattern.toList.length + 2) ⟨.initial, []⟩ .start pattern.toList

theorem reading?_eq_some_iff {pattern : String} {r : Regex} {ctx : Context} {rest : List Char} :
    reading? pattern = some (r, ctx, rest) ↔ Reads ⟨.initial, []⟩ .start pattern.toList r ctx rest :=
  ⟨(reads_of_parts _).1, fun h => h.parts_eq (by omega)⟩

/-- The pattern is read to its end, and the flags in force there are the initial ones. -/
def Closed (pattern : String) : Prop :=
  ∃ r names, Reads ⟨.initial, []⟩ .start pattern.toList r ⟨.initial, names⟩ []

theorem closed_iff {pattern : String} :
    Closed pattern ↔
      ∃ reading ∈ reading? pattern, reading.2.1.flags = .initial ∧ reading.2.2 = [] := by
  constructor
  · rintro ⟨r, names, h⟩
    exact ⟨_, reading?_eq_some_iff.mpr h, rfl, rfl⟩
  · rintro ⟨⟨r, ⟨flags, names⟩, rest⟩, hmem, rfl, rfl⟩
    exact ⟨r, names, reading?_eq_some_iff.mp hmem⟩

instance (pattern : String) : Decidable (Closed pattern) :=
  decidable_of_iff _ closed_iff.symm

/-- The patterns joined by bars. -/
def joined (patterns : List String) : String :=
  String.intercalate "|" patterns

section Joined

variable {flags : Flags} {names : List String} {done : Option Regex} {s rest : List Char} {r : Regex}
variable {ctx : Context} {patterns : List String} {regexes : List Regex}

end Joined

end SchemaCheck.Regex
