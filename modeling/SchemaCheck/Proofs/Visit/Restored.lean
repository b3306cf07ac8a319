import Mathlib.Data.String.Basic
import SchemaCheck.Proofs.Validator.History
import SchemaCheck.Proofs.Visit.Effect

/-!
A walk restores its state. Scopes, frames and open references that were entered are left again in
every outcome, so that the next schema is applied in the same scope and under the same flag.
-/

namespace SchemaCheck

namespace Walk

variable {α : Type}

/-- In every outcome, the scopes, the frame and the open references are the initial ones. -/
def Restores (x : Walk α) : Prop :=
  ∀ s, (x s).2.scopes = s.scopes ∧ (x s).2.frame = s.frame ∧ (x s).2.following = s.following

theorem Moves.restores {R : Memory → Memory → Prop} {x : Walk α} (h : Moves R x) : Restores x := by
  intro s
  obtain ⟨m, hstate, -⟩ := h s
  rw [hstate]
  exact ⟨rfl, rfl, rfl⟩

end Walk

/-- The trivial relation holds across each learning step. -/
theorem Memory.learning_true (r : Resolver) : Memory.Learning r fun _ _ => True where
  refl _ := trivial
  trans _ _ := trivial
  resolve _ _ _ := trivial
  regex _ _ _ _ := trivial

namespace Setting

/-- The walker that the keywords of a node run with, `depth` levels above the limit. -/
def walker (t : Setting) (depth : Nat) : Walker :=
  ⟨t.resolver, t.findsCycles, t.visit depth⟩

/-- In a registry with keywords of the drafts, under any names, every operation of a walker restores
the state apart from the memory: applying a schema, one below a step or a branch, following a
reference, and testing a schema. This includes failures at any depth. -/
theorem walker_restores (t : Setting) (ht : t.registry.Preset) (depth : Nat) :
    let w := t.walker depth
    (∀ subject schema, (w.descend subject schema).Restores) ∧
      (∀ subject schema path schemaPath,
        (w.descendAt subject schema path schemaPath).Restores) ∧
      (∀ subject branch i, (w.descendBranch subject branch i).Restores) ∧
      (∀ reference target subject, (w.follow reference target subject).Restores) ∧
      ∀ subject schema, (w.isValid subject schema).Restores := by
  intro w
  have hlearning := Memory.learning_true t.resolver
  have hvisit := fun subject schema override =>
    moves_visit ht hlearning depth subject schema override
  have hprogram {α : Type} {x : Walker → Walk α} {subject : Subject}
      (hx : Walk.Program (.free subject) x) : (x w).Restores :=
    (hx.moves hlearning rfl hvisit).restores
  refine ⟨?_, ?_, ?_, ?_, ?_⟩
  · exact fun subject schema => hprogram (.descend (r := .free subject) .here trivial)
  · exact fun subject schema path schemaPath =>
      hprogram (.descendAt (r := .free subject) .here trivial path schemaPath)
  · exact fun subject branch i => hprogram (.descendBranch (r := .free subject) trivial i)
  · exact fun reference target subject =>
      (Walk.Moves.follow hlearning hvisit reference target subject).restores
  · exact fun subject schema => hprogram (.isValid (r := .free subject) .here trivial)

/-- A reference inside two further scopes, to a document that cannot be loaded. The failure names
the innermost scope, and the walker is back in the initial scope and frame, with the initial open
references. -/
theorem walker_restores_offline :
    let base : Url :=
      { Validator.defaultBase with scheme := "http", authority := some ⟨"", "a.test", none⟩ }
    let t : Setting :=
      { registry := ⟨[("each", Keyword.properties), ("$ref", Keyword.reference)]⟩
        resolver := ⟨base, false, .offline⟩
        findsCycles := true
        checksUnions := true }
    let s : WalkState :=
      { scopes := ⟨base, [base]⟩
        frame := ⟨true, some false, true⟩
        following := [("http://a.test/schema.json", [])]
        memory := ⟨t.resolver.seed .null, []⟩ }
    let schema : Json := .object [("each", .object [("x", .object
      [("$ref", .string "x.json"), ("id", .string "b/")])]), ("id", .string "a/")]
    let x := (t.walker 9).descend (.root (.object [("x", .null)])) schema
    t.registry.Preset ∧
      (x s).1.map List.length =
        .error (.schema (.fetch "http://a.test/a/b/x.json" "offline")) ∧
      (x s).2.scopes = s.scopes ∧ (x s).2.frame = s.frame ∧ (x s).2.following = s.following := by
  intro base t s schema x
  have ht : t.registry.Preset := by
    intro entry h
    simp only [t, List.mem_cons, List.not_mem_nil, or_false] at h
    rcases h with rfl | rfl
    · exact ⟨"properties", by simp [Registry.draft4Only]⟩
    · exact ⟨"$ref", by simp [Registry.shared]⟩
  refine ⟨ht, by decide +kernel, ?_⟩
  exact (t.walker_restores ht 9).1 _ _ s

end Setting

end SchemaCheck
