import Mathlib.Logic.ExistsUnique
import SchemaCheck.Proofs.Keyword.Rank

/-!
A declarative meaning of schemas. A clause gives for one keyword the values that it may be declared
with and the condition that a declared value puts on an instance. The condition may refer to whether
other schemas hold, and to the members around the keyword. A schema holds of an instance if the
clauses of all its members do; members without a clause are ignored.
-/

namespace SchemaCheck

namespace Json

/-- The value is an integer with the property. -/
def Whole (j : Json) (p : Int → Prop) : Prop :=
  ∃ n : Integer, j = .number (.integer n) ∧ p n.val

/-- The value is a list of strings with the property. -/
def Names (j : Json) (p : String → Prop) : Prop :=
  ∃ items, j = .array items ∧ ∀ item ∈ items, ∃ s, item = .string s ∧ p s

/-- The value is of the type. An integer is also a number. -/
inductive OfType : Primitive → Json → Prop
  | array (items : List Json) : OfType .array (.array items)
  | boolean (b : Bool) : OfType .boolean (.bool b)
  | integer (n : Integer) : OfType .integer (.number (.integer n))
  | null : OfType .null .null
  | number (n : Number) : OfType .number (.number n)
  | object (members : Members) : OfType .object (.object members)
  | string (text : String) : OfType .string (.string text)

def Members.Has (key : String) (members : Members) : Prop :=
  ∃ value, (key, value) ∈ members

end Json

/-- The meaning of a keyword, relative to a relation `holds` between schemas and values. -/
structure Clause where
  shape : (declared : Json) → Prop
  asks : (holds : Json → Json → Prop) → (declared : Json) → (siblings : Json.Members) →
    (value : Json) → Prop

namespace Clause

/-- The condition of `additionalProperties` and `additionalItems`: a boolean, or a schema that must
hold. -/
def admits (holds : Json → Json → Prop) (declared value : Json) : Prop :=
  match declared with
  | .bool allowed => allowed
  | schema => holds schema value

/-- If `items` is a list, `additionalItems` applies to the elements beyond it. -/
def additionalItems : Clause where
  shape declared := (∃ allowed, declared = .bool allowed) ∨ declared.isObject
  asks holds declared siblings value :=
    ∀ elements positional, value = .array elements → ("items", .array positional) ∈ siblings →
      ∀ (i : Nat) element, positional.length ≤ i → elements[i]? = some element →
        admits holds declared element

/-- The key is a property, or one of the patterns matches it. -/
def Covers (siblings : Json.Members) (key : String) : Prop :=
  (∃ properties, ("properties", .object properties) ∈ siblings ∧
    Json.Members.Has key properties) ∨
  ∃ patterns pattern regex, ("patternProperties", .object patterns) ∈ siblings ∧
    Json.Members.Has pattern patterns ∧ Regex.parse? pattern = some regex ∧ regex.isMatch key

def additionalProperties : Clause where
  shape declared := (∃ allowed, declared = .bool allowed) ∨ declared.isObject
  asks holds declared siblings value :=
    ∀ object, value = .object object → ∀ key part, (key, part) ∈ object →
      ¬ Covers siblings key → admits holds declared part

def enum : Clause where
  shape declared := ∃ allowed, declared = .array allowed
  asks _ declared _ value := value ∈ declared.elements

def items : Clause where
  shape declared := (∃ schemas, declared = .array schemas) ∨ declared.isObject
  asks holds declared _ value :=
    ∀ elements, value = .array elements →
      match declared with
      | .array schemas =>
        ∀ (i : Nat) schema element, schemas[i]? = some schema → elements[i]? = some element →
          holds schema element
      | schema => ∀ element ∈ elements, holds schema element

/-- A clause that compares a count with a limit. -/
def counted (count : Json → Option Nat) (meets : (count limit : Int) → Prop) : Clause where
  shape declared := declared.Whole (0 ≤ ·)
  asks _ declared _ value := ∀ n, count value = some n → declared.Whole (meets n)

/-- A clause that compares a number with a limit; the flag `exclusive` excludes the limit itself. -/
def bounded (exclusive : String) (meets strictly : (n limit : Int) → Prop) : Clause where
  shape declared := ∃ limit, declared = .number limit
  asks _ declared siblings value :=
    ∀ n : Integer, value = .number (.integer n) →
      ((exclusive, .bool true) ∈ siblings → declared.Whole (strictly n.val)) ∧
      ((exclusive, .bool true) ∉ siblings → declared.Whole (meets n.val))

def pattern : Clause where
  shape declared := ∃ pattern, declared = .string pattern ∧ (Regex.parse? pattern).isSome
  asks _ declared _ value :=
    ∀ text, value = .string text →
      ∃ pattern regex, declared = .string pattern ∧ Regex.parse? pattern = some regex ∧
        regex.isMatch text

def patternProperties : Clause where
  shape declared :=
    ∃ patterns, declared = .object patterns ∧ ∀ entry ∈ patterns, (Regex.parse? entry.1).isSome
  asks holds declared _ value :=
    ∀ patterns object, declared = .object patterns → value = .object object →
      ∀ pattern schema regex, (pattern, schema) ∈ patterns →
        Regex.parse? pattern = some regex →
          ∀ key part, (key, part) ∈ object → regex.isMatch key → holds schema part

def uniqueItems : Clause where
  shape declared := ∃ wanted, declared = .bool wanted
  asks _ declared _ value :=
    declared = .bool true → ∀ elements, value = .array elements → elements.Nodup

def allOf : Clause where
  shape declared := ∃ branches, declared = .array branches
  asks holds declared _ value := ∀ branch ∈ declared.elements, holds branch value

def anyOf : Clause where
  shape declared := ∃ branches, declared = .array branches
  asks holds declared _ value := ∃ branch ∈ declared.elements, holds branch value

def oneOf : Clause where
  shape declared := ∃ branches, declared = .array branches
  asks holds declared _ value :=
    ∃! i : Nat, ∃ branch, declared.elements[i]? = some branch ∧ holds branch value

def not : Clause where
  shape _ := True
  asks holds declared _ value := ¬ holds declared value

/-- A dependency of a member: a list of other members that must be present, or a schema that must
hold. -/
def dependent (holds : Json → Json → Prop) (dependency : Json) (object : Json.Members) : Prop :=
  match dependency with
  | .array names => ∀ name, .string name ∈ names → Json.Members.Has name object
  | schema => holds schema (.object object)

def dependencies : Clause where
  shape declared :=
    ∃ dependencies, declared = .object dependencies ∧
      ∀ entry ∈ dependencies, entry.2.isObject ∨ entry.2.Names fun _ => True
  asks holds declared _ value :=
    ∀ dependencies object, declared = .object dependencies → value = .object object →
      ∀ key dependency, (key, dependency) ∈ dependencies → Json.Members.Has key object →
        dependent holds dependency object

def multipleOf : Clause where
  shape declared := declared.Whole (0 < ·)
  asks _ declared _ value :=
    ∀ n : Integer, value = .number (.integer n) → declared.Whole (· ∣ n.val)

def properties : Clause where
  shape declared := ∃ properties, declared = .object properties
  asks holds declared _ value :=
    ∀ properties object, declared = .object properties → value = .object object →
      ∀ key schema part, (key, schema) ∈ properties → (key, part) ∈ object → holds schema part

def required : Clause where
  shape declared := declared.Names fun _ => True
  asks _ declared _ value :=
    ∀ object, value = .object object → ∀ name, .string name ∈ declared.elements →
      Json.Members.Has name object

/-- The value is of one of the named types. -/
def type : Clause where
  shape declared :=
    (∃ p : Json.Primitive, declared = .string p.name) ∨
      declared.Names fun name => ∃ p : Json.Primitive, p.name = name
  asks _ declared _ value :=
    ∃ p : Json.Primitive, Json.OfType p value ∧
      (declared = .string p.name ∨ .string p.name ∈ declared.elements)

namespace Draft3

/-- The allowed members of `type`: a name of a type or a schema. -/
def IsType (member : Json) : Prop :=
  member.isObject ∨ member = .string "any" ∨ ∃ p : Json.Primitive, member = .string p.name

/-- The value is of the type: every value is of type `any`, and a value is of a schema if the schema
holds of it. -/
def Meets (holds : Json → Json → Prop) (member value : Json) : Prop :=
  match member with
  | .string name => name = "any" ∨ ∃ p : Json.Primitive, p.name = name ∧ Json.OfType p value
  | schema => holds schema value

/-- The value is of one of the types. -/
def type : Clause where
  shape declared := ∀ member ∈ Keyword.Draft3.members declared, IsType member
  asks holds declared _ value :=
    ∃ member ∈ Keyword.Draft3.members declared, Meets holds member value

/-- The value is of none of the types. -/
def disallow : Clause where
  shape declared := ∀ member ∈ Keyword.Draft3.members declared, IsType member
  asks holds declared _ value :=
    ∀ member ∈ Keyword.Draft3.members declared, ¬ holds member.typed value

def bases : Clause where
  shape declared := declared.isObject ∨ ∃ parents, declared = .array parents
  asks holds declared _ value := ∀ parent ∈ Keyword.Draft3.members declared, holds parent value

/-- The schema is that of a required member. -/
def Wanted (schema : Json) : Prop :=
  ∃ members, schema = .object members ∧ ("required", .bool true) ∈ members

def properties : Clause where
  shape declared := ∃ properties, declared = .object properties
  asks holds declared _ value :=
    ∀ properties object, declared = .object properties → value = .object object →
      ∀ key schema, (key, schema) ∈ properties →
        (Wanted schema → Json.Members.Has key object) ∧
          ∀ part, (key, part) ∈ object → holds schema part

/-- A dependency of the third draft, where a single name is allowed in place of a list. -/
def dependent (holds : Json → Json → Prop) (dependency : Json) (object : Json.Members) : Prop :=
  match dependency with
  | .string name => Json.Members.Has name object
  | several => Clause.dependent holds several object

def dependencies : Clause where
  shape declared :=
    ∃ dependencies, declared = .object dependencies ∧
      ∀ entry ∈ dependencies, entry.2.isObject ∨ (entry.2.Names fun _ => True) ∨
        ∃ name, entry.2 = .string name
  asks holds declared _ value :=
    ∀ dependencies object, declared = .object dependencies → value = .object object →
      ∀ key dependency, (key, dependency) ∈ dependencies → Json.Members.Has key object →
        dependent holds dependency object

end Draft3

end Clause

/-- A list of clauses with the names of their keywords. -/
structure Vocabulary where
  clauses : List (String × Clause)

namespace Vocabulary

def clause? (name : String) (v : Vocabulary) : Option Clause :=
  (v.clauses.find? (·.1 = name)).map (·.2)

/-- The clauses of the keywords that both drafts share. -/
def shared : List (String × Clause) := [
  ("additionalItems", .additionalItems),
  ("additionalProperties", .additionalProperties),
  ("enum", .enum),
  ("items", .items),
  ("maxItems", .counted Keyword.elementCount (· ≤ ·)),
  ("maxLength", .counted Keyword.charCount (· ≤ ·)),
  ("maximum", .bounded "exclusiveMaximum" (· ≤ ·) (· < ·)),
  ("minItems", .counted Keyword.elementCount (· ≥ ·)),
  ("minLength", .counted Keyword.charCount (· ≥ ·)),
  ("minimum", .bounded "exclusiveMinimum" (· ≥ ·) (· > ·)),
  ("pattern", .pattern),
  ("patternProperties", .patternProperties),
  ("uniqueItems", .uniqueItems)]

def draft4 : Vocabulary := ⟨shared ++ [
  ("allOf", .allOf),
  ("anyOf", .anyOf),
  ("dependencies", .dependencies),
  ("maxProperties", .counted Keyword.memberCount (· ≤ ·)),
  ("minProperties", .counted Keyword.memberCount (· ≥ ·)),
  ("multipleOf", .multipleOf),
  ("not", .not),
  ("oneOf", .oneOf),
  ("properties", .properties),
  ("required", .required),
  ("type", .type)]⟩

def draft3 : Vocabulary := ⟨shared ++ [
  ("dependencies", Clause.Draft3.dependencies),
  ("disallow", Clause.Draft3.disallow),
  ("divisibleBy", .multipleOf),
  ("extends", Clause.Draft3.bases),
  ("properties", Clause.Draft3.properties),
  ("type", Clause.Draft3.type)]⟩

variable (v : Vocabulary)

/-- A well-formed schema of the vocabulary: it has no reference, no id and no flag of the ban, every
keyword has an allowed value, and every schema that a keyword applies is well-formed. -/
inductive WellFormed : Json → Prop
  | object {members : Json.Members}
      (reference : ∀ declared, (Setting.refKeyword, declared) ∉ members)
      (scope : ∀ id, ("id", .string id) ∉ members)
      (ban : ∀ declared, (Ban.keyword, declared) ∉ members)
      (shape : ∀ name declared c, (name, declared) ∈ members → v.clause? name = some c →
        c.shape declared)
      (inside : ∀ name declared sub, (name, declared) ∈ members → (v.clause? name).isSome →
        sub ∈ Keyword.applied name declared → WellFormed sub) :
      WellFormed (.object members)

/-- The schema holds, where schemas of rank `n` or more are taken to hold of nothing. -/
def holdsBelow : Nat → Json → Json → Prop
  | n + 1, .object members, value =>
    ∀ name declared c, (name, declared) ∈ members → v.clause? name = some c →
      c.asks (holdsBelow n) declared members value
  | _, _, _ => True

/-- The schema holds of the value: the condition of every member that has a clause is met. -/
def Holds (schema value : Json) : Prop :=
  v.holdsBelow schema.rank schema value

end Vocabulary

end SchemaCheck
