import SchemaCheck.Keyword.Array
import SchemaCheck.Keyword.Kind
import SchemaCheck.Proofs.Json.Equal
import SchemaCheck.Proofs.Validator.History

/-!
`enum` and `uniqueItems` in terms of the equality of values, which is an equivalence relation on
definite values.
-/

namespace SchemaCheck

namespace Keyword

variable (w : Walker) (place : Location) (schema : Json.Members) (s : WalkState)

theorem enum_runs (allowed : List Json) (value : Json) :
    ∃ found, enum w (.array allowed) ⟨value, place⟩ schema s = (.ok found, s) ∧
      (found = [] ↔ ∃ d ∈ allowed, d.equal value = true) := by
  unfold enum
  dsimp only
  rw [← List.any_eq_true]
  split
  next h => exact ⟨[], rfl, by simp [h]⟩
  next h => exact ⟨_, rfl, by simp [h]⟩

theorem hasRepeats_eq_false_iff {elements : List Json} :
    hasRepeats elements = false ↔ elements.Pairwise fun a b => ¬ a.equal b = true := by
  induction elements with
  | nil => simp [hasRepeats]
  | cons j rest ih => simp [hasRepeats, ih]

theorem uniqueItems_runs (elements : List Json) :
    ∃ found, uniqueItems w (.bool true) ⟨.array elements, place⟩ schema s = (.ok found, s) ∧
      (found = [] ↔ elements.Pairwise fun a b => ¬ a.equal b = true) := by
  unfold uniqueItems
  dsimp only
  rw [← hasRepeats_eq_false_iff]
  split
  next h => exact ⟨_, rfl, by simp [h]⟩
  next h => exact ⟨[], rfl, by simp [h]⟩

/-- Equality is transitive through a value if and only if the value is definite. On definite values,
equal entries of an `enum` list admit the same instances at any position of the list, and
`uniqueItems` accepts exactly the arrays whose elements are pairwise in different classes. -/
theorem equality_partitions (elements : List Json) (hordered : ∀ j ∈ elements, j.Ordered)
    (hdefinite : ∀ j ∈ elements, j.Definite) :
    (∀ b : Json, b.Ordered → (b.Definite ↔ ∀ a c : Json, a.Ordered → c.Ordered →
      a.equal b = true → b.equal c = true → a.equal c = true)) ∧
    Equivalence (fun a b : { j // j ∈ elements } => a.1.equal b.1 = true) ∧
    (∀ d ∈ elements, ∀ e ∈ elements, d.equal e = true → ∀ before after (value : Json),
      value.Ordered → ∃ found found',
        enum w (.array (before ++ d :: after)) ⟨value, place⟩ schema s = (.ok found, s) ∧
        enum w (.array (before ++ e :: after)) ⟨value, place⟩ schema s = (.ok found', s) ∧
        (found = [] ↔ found' = [])) ∧
    ∃ found, uniqueItems w (.bool true) ⟨.array elements, place⟩ schema s = (.ok found, s) ∧
      (found = [] ↔ elements.Pairwise fun a b => ¬ a.equal b = true) := by
  refine ⟨fun b hb => ⟨fun h a c ha hc => Json.equal_trans ha hb hc h, fun htrans n hpart => ?_⟩,
    ⟨fun a => Json.equal_refl (hordered _ a.2), fun {a b} => ?_, fun {a b c} => ?_⟩,
    fun d hd e he hequal before after value hvalue => ?_, uniqueItems_runs w place schema s _⟩
  · by_contra hn
    obtain ⟨a, c, ha, hc, hab, hbc, hac⟩ := Json.exists_not_trans hn hpart hb
    exact hac (htrans a c ha hc hab hbc)
  · exact Json.equal_symm (hordered _ a.2) (hordered _ b.2)
  · exact Json.equal_trans (hordered _ a.2) (hordered _ b.2) (hordered _ c.2) (hdefinite _ b.2)
  · obtain ⟨found, hfound, hadmits⟩ := enum_runs w place schema s (before ++ d :: after) value
    obtain ⟨found', hfound', hadmits'⟩ := enum_runs w place schema s (before ++ e :: after) value
    refine ⟨found, found', hfound, hfound', hadmits.trans (Iff.trans ?_ hadmits'.symm)⟩
    have hsame : d.equal value = true ↔ e.equal value = true :=
      ⟨Json.equal_trans (hordered e he) (hordered d hd) hvalue (hdefinite d hd)
          (Json.equal_symm (hordered d hd) (hordered e he) hequal),
        Json.equal_trans (hordered d hd) (hordered e he) hvalue (hdefinite e he) hequal⟩
    simp only [List.mem_append, List.mem_cons, or_and_right, exists_or, exists_eq_left, hsame]

/-- The integer one, the double one, and a list of it; the first two are in the same class. -/
theorem equality_partitions_one :
    let one : Json := .number (.integer ⟨1, by decide, by decide⟩)
    let double : Json := .number (.double ⟨false, 0x10000000000000, -52, by decide⟩)
    let elements := [one, double, .array [double]]
    let v := (Options.standard .offline).build .null Validator.defaultBase
    let w : Walker := ⟨v.setting.resolver, v.setting.findsCycles, v.setting.visit 1⟩
    let s := v.start v.config v.memory
    Equivalence (fun a b : { j // j ∈ elements } => a.1.equal b.1 = true) ∧
      ∃ found, uniqueItems w (.bool true) ⟨.array elements, []⟩ [] s = (.ok found, s) ∧
        found ≠ [] := by
  intro one double elements v w s
  have hsmall : |(⟨false, 0x10000000000000, -52, by decide⟩ : Double).toRat| < 2 ^ 53 := by
    rw [Double.abs_toRat]
    norm_num [Double.unit]
  have hone : one.Definite := .of_number (Json.Number.definite_integer _)
  have hdouble : double.Definite := .of_number (Json.Number.definite_double hsmall)
  have harray : (Json.array [double]).Definite :=
    .of_items fun _ h => List.mem_singleton.mp h ▸ hdouble
  have hnumber (n : Json.Number) : (Json.number n).Ordered := by rintro _ ⟨⟩
  have hlist : (Json.array [double]).Ordered :=
    .of_items fun _ h => List.mem_singleton.mp h ▸ hnumber _
  obtain ⟨-, hclasses, -, found, hfound, hunique⟩ := equality_partitions w [] [] s elements
    (by simp [elements, one, double, hnumber, hlist])
    (by simp [elements, hone, hdouble, harray])
  exact ⟨hclasses, found, hfound, mt hunique.mp (by decide +kernel)⟩

/-- Pairwise inequality is invariant under permutations. -/
theorem pairwise_unequal_perm {elements others : List Json} (hperm : elements.Perm others)
    (hordered : ∀ j ∈ elements, j.Ordered) :
    (elements.Pairwise fun a b => ¬ a.equal b = true) ↔
      others.Pairwise fun a b => ¬ a.equal b = true := by
  -- Equality is symmetric among ordered values only, and all elements are such.
  let Unequal (a b : Json) : Prop := a.Ordered → b.Ordered → ¬ a.equal b = true
  have hsymm {a b : Json} (h : Unequal a b) : Unequal b a := fun hb ha =>
    Json.equal_comm ha hb ▸ h ha hb
  have hweaken {list : List Json} (hlist : ∀ j ∈ list, j.Ordered) :
      (list.Pairwise fun a b => ¬ a.equal b = true) ↔ list.Pairwise Unequal :=
    List.Pairwise.iff_of_mem fun ha hb => by simp [Unequal, hlist _ ha, hlist _ hb]
  rw [hweaken hordered, hperm.pairwise_iff hsymm,
    hweaken fun j hj => hordered j (hperm.mem_iff.mpr hj)]

/-- Equality is reflexive and symmetric. The result of `uniqueItems` is therefore invariant under
permutations of the array, and every array with two equal elements is rejected, in particular one
that contains a value twice. -/
theorem uniqueness_in_any_order (elements : List Json) (hordered : ∀ j ∈ elements, j.Ordered) :
    (∀ a : Json, a.Ordered → a.equal a = true) ∧
    (∀ a b : Json, a.Ordered → b.Ordered → a.equal b = b.equal a) ∧
    (∀ draft, (Registry.ofDraft draft).lookup? "uniqueItems" = some uniqueItems) ∧
    ∃ found, uniqueItems w (.bool true) ⟨.array elements, place⟩ schema s = (.ok found, s) ∧
      (∀ others : List Json, elements.Perm others → ∃ found',
        uniqueItems w (.bool true) ⟨.array others, place⟩ schema s = (.ok found', s) ∧
          (found = [] ↔ found' = [])) ∧
      (∀ before between after a b, elements = before ++ a :: between ++ b :: after →
        a.equal b = true → found ≠ []) ∧
      (¬ elements.Nodup → found ≠ []) := by
  obtain ⟨found, hfound, hunique⟩ := uniqueItems_runs w place schema s elements
  refine ⟨fun a => Json.equal_refl, fun a b => Json.equal_comm, fun draft => by cases draft <;> rfl,
    found, hfound, fun others hperm => ?_, fun before between after a b hsplit hequal hnone => ?_,
    fun hrepeats hnone => ?_⟩
  · obtain ⟨found', hfound', hunique'⟩ := uniqueItems_runs w place schema s others
    exact ⟨found', hfound', hunique.trans
      ((pairwise_unequal_perm hperm hordered).trans hunique'.symm)⟩
  · have hpairwise := hunique.mp hnone
    rw [hsplit, List.pairwise_append] at hpairwise
    exact hpairwise.2.2 a (by simp) b List.mem_cons_self hequal
  · refine hrepeats ((hunique.mp hnone).imp_of_mem fun {a b} ha _ hne heq => hne ?_)
    exact heq ▸ Json.equal_refl (hordered a ha)

/-- The integer one, two and the double one, in two orders. -/
theorem uniqueness_in_any_order_ones :
    let one : Json := .number (.integer ⟨1, by decide, by decide⟩)
    let two : Json := .number (.integer ⟨2, by decide, by decide⟩)
    let double : Json := .number (.double ⟨false, 0x10000000000000, -52, by decide⟩)
    let v := (Options.standard .offline).build .null Validator.defaultBase
    let w : Walker := ⟨v.setting.resolver, v.setting.findsCycles, v.setting.visit 1⟩
    let s := v.start v.config v.memory
    ∃ found, uniqueItems w (.bool true) ⟨.array [one, double, two], []⟩ [] s = (.ok found, s) ∧
      found ≠ [] := by
  intro one two double v w s
  have hnumber (n : Json.Number) : (Json.number n).Ordered := by rintro _ ⟨⟩
  obtain ⟨-, -, -, rejected, -, hperm, hequal, -⟩ := uniqueness_in_any_order w [] [] s
    [one, two, double] (by simp [one, two, double, hnumber])
  obtain ⟨found, hfound, hsame⟩ := hperm [one, double, two] (.cons _ (.swap ..))
  exact ⟨found, hfound, mt hsame.mpr (hequal [] [two] [] one double rfl (by decide +kernel))⟩

end Keyword

/-- A double beyond `2 ^ 53` is equal to two integers that are not equal to each other. -/
theorem Json.equal_two_integers :
    let odd : Json := .number (.integer ⟨9007199254740993, by decide, by decide⟩)
    let double : Json := .number (.double ⟨false, 0x10000000000000, 1, by decide⟩)
    let even : Json := .number (.integer ⟨9007199254740992, by decide, by decide⟩)
    odd.equal double = true ∧ double.equal even = true ∧ ¬ odd.equal even = true := by
  decide +kernel

end SchemaCheck
