import SchemaCheck.Proofs.Keyword.Reach

/-!
How keywords apply schemas. The two combinators that the ban treats specially apply their schemas as
branches, a reference is followed, and every other keyword applies schemas under the inherited flag.
-/

namespace SchemaCheck

/-- The walker that applies every schema under the inherited flag. -/
def Walker.descending (w : Walker) : Walker :=
  { w with visit := fun subject schema _ => w.visit subject schema none }

/-- The walker that applies every schema as a branch. -/
def Walker.branching (w : Walker) : Walker :=
  { w with
    visit := fun subject schema _ s =>
      w.visit subject schema (if s.frame.suppressBranchBan then some false else none) s }

namespace Keyword

/-- The keyword applies schemas under the inherited flag only. -/
def Descends (k : Keyword) : Prop :=
  ∀ w : Walker, k w.descending = k w

/-- The keyword applies schemas as branches only. -/
def Branches (k : Keyword) : Prop :=
  ∀ w : Walker, k w.branching = k w

theorem validAmong_descending (w : Walker) (subject : Subject) (branches : List Json) :
    validAmong w.descending subject branches = validAmong w subject branches := by
  induction branches with
  | nil => rfl
  | cons branch rest ih =>
      unfold validAmong
      rw [ih]
      rfl

theorem descends_oneOf : oneOf.Descends := by
  intro w
  funext declared subject schema
  unfold oneOf
  simp only [validAmong_descending]
  rfl

theorem search_descending (w : Walker) (subject : Subject) (types : List (Json × Nat)) :
    Draft3.search w.descending subject types = Draft3.search w subject types := by
  induction types with
  | nil => rfl
  | cons entry rest ih =>
      obtain ⟨type, i⟩ := entry
      cases type with
      | string name =>
          unfold Draft3.search
          rw [ih]
      | object members =>
          unfold Draft3.search
          rw [ih]
          rfl
      | _ => exact ih

theorem descends_type : Draft3.type.Descends := by
  intro w
  funext declared subject schema
  unfold Draft3.type
  simp only [search_descending]

/-- The names of the keywords that apply schemas in another way than under the inherited flag. -/
def particular : List String :=
  Setting.refKeyword :: Setting.combinators

theorem descends_shared : ∀ e ∈ Registry.shared, e.1 ∉ particular → e.2.Descends := by
  simp only [Registry.shared, List.forall_mem_cons]
  refine ⟨fun h => absurd ?_ h, ?_⟩
  · decide
  · exact ⟨fun _ _ => rfl, fun _ _ => rfl, fun _ _ => rfl, fun _ _ => rfl, fun _ _ => rfl,
      fun _ _ => rfl, fun _ _ => rfl, fun _ _ => rfl, fun _ _ => rfl, fun _ _ => rfl,
      fun _ _ => rfl, fun _ _ => rfl, fun _ _ => rfl, fun _ _ => rfl, List.forall_mem_nil _⟩

theorem descends_draft4Only : ∀ e ∈ Registry.draft4Only, e.1 ∉ particular → e.2.Descends := by
  simp only [Registry.draft4Only, List.forall_mem_cons]
  refine ⟨fun h => absurd ?_ h, fun h => absurd ?_ h, ?_⟩
  · decide
  · decide
  · exact ⟨fun _ _ => rfl, fun _ _ => rfl, fun _ _ => rfl, fun _ _ => rfl, fun _ _ => rfl,
      fun _ => descends_oneOf, fun _ _ => rfl, fun _ _ => rfl, fun _ _ => rfl,
      List.forall_mem_nil _⟩

theorem descends_draft3Only : ∀ e ∈ Registry.draft3Only, e.1 ∉ particular → e.2.Descends := by
  simp only [Registry.draft3Only, List.forall_mem_cons]
  exact ⟨fun _ _ => rfl, fun _ _ => rfl, fun _ _ => rfl, fun _ _ => rfl, fun _ _ => rfl,
    fun _ => descends_type, List.forall_mem_nil _⟩

/-- Every other keyword of the drafts applies schemas under the inherited flag only. -/
theorem descends_of_lookup?_ofDraft {draft : Draft} {name : String} {k : Keyword}
    (h : (Registry.ofDraft draft).lookup? name = some k) (hname : name ∉ particular) : k.Descends :=
  Registry.of_lookup?_ofDraft (p := fun name k => name ∉ particular → k.Descends)
    descends_shared descends_draft4Only descends_draft3Only h hname

/-- The combinators that the ban treats specially, in a draft that has them. -/
theorem combinator_of_lookup?_ofDraft {draft : Draft} {name : String} {k : Keyword}
    (h : (Registry.ofDraft draft).lookup? name = some k) (hname : name ∈ Setting.combinators) :
    name = "allOf" ∧ k = allOf ∨ name = "anyOf" ∧ k = anyOf := by
  simp only [Setting.combinators, List.mem_cons, List.not_mem_nil, or_false] at hname
  rcases hname with rfl | rfl
  · cases draft with
    | draft3 => cases h
    | draft4 => exact .inl ⟨rfl, (Option.some.inj h).symm⟩
  · cases draft with
    | draft3 => cases h
    | draft4 => exact .inr ⟨rfl, (Option.some.inj h).symm⟩

/-- These combinators apply their schemas as branches only. -/
theorem branches_of_lookup?_ofDraft {draft : Draft} {name : String} {k : Keyword}
    (h : (Registry.ofDraft draft).lookup? name = some k) (hname : name ∈ Setting.combinators) :
    k.Branches := by
  rcases combinator_of_lookup?_ofDraft h hname with ⟨-, rfl⟩ | ⟨-, rfl⟩
  · exact fun _ => rfl
  · exact fun _ => rfl

end Keyword

end SchemaCheck
