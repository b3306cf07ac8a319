import SchemaCheck.Proofs.Violation.Outline
import SchemaCheck.Proofs.Walk.Effect

/-!
Computations that agree: from the same state they reach the same state, with corresponding results
or with the same failure. Both use the same memory, so that no assumption about it is needed.
-/

namespace SchemaCheck.Walk

variable {α β γ δ : Type} {R : α → β → Prop} {R' : γ → δ → Prop}

inductive Agreed (R : α → β → Prop) :
    Except Failure α × WalkState → Except Failure β × WalkState → Prop
  | ok {a : α} {b : β} (s : WalkState) : R a b → Agreed R (.ok a, s) (.ok b, s)
  | error (e : Failure) (s : WalkState) : Agreed R (.error e, s) (.error e, s)

theorem Agreed.eq {p q : Except Failure α × WalkState} (h : Agreed (· = ·) p q) : p = q := by
  cases h with
  | ok _ heq => rw [heq]
  | error _ _ => rfl

/-- Both find a violation or neither does, and both have the same failure, if any. -/
theorem Agreed.isEmpty {p q : Except Failure (List Violation) × WalkState}
    (h : Agreed Violation.Same p q) : p.1.map List.isEmpty = q.1.map List.isEmpty := by
  cases h with
  | ok _ hsame => exact congrArg Except.ok hsame.isEmpty
  | error _ _ => rfl

def Agrees (R : α → β → Prop) (x : Walk α) (y : Walk β) : Prop :=
  ∀ s, Agreed R (x s) (y s)

namespace Agrees

theorem pure {a : α} {b : β} (h : R a b) : Agrees R (Pure.pure a) (Pure.pure b) :=
  fun s => .ok s h

theorem refl {S : α → α → Prop} (h : ∀ a, S a a) (x : Walk α) : Agrees S x x := by
  intro s
  rcases x s with ⟨e | a, t⟩
  · exact .error e t
  · exact .ok t (h a)

theorem bind {x : Walk α} {y : Walk β} {f : α → Walk γ} {g : β → Walk δ} (hx : Agrees R x y)
    (hf : ∀ a b, R a b → Agrees R' (f a) (g b)) : Agrees R' (x >>= f) (y >>= g) := by
  intro s
  have hfirst := hx s
  rcases hleft : x s with ⟨r, t⟩
  rcases hright : y s with ⟨r', t'⟩
  rw [hleft, hright] at hfirst
  cases hfirst with
  | ok _ hab =>
      rw [bind_of_ok hleft, bind_of_ok hright]
      exact hf _ _ hab t
  | error e _ =>
      rw [bind_of_error hleft, bind_of_error hright]
      exact .error e t

theorem map {x : Walk α} {y : Walk β} {f : α → γ} {g : β → δ} (hx : Agrees R x y)
    (h : ∀ a b, R a b → R' (f a) (g b)) :
    Agrees R' (do return f (← x)) (do return g (← y)) :=
  bind hx fun a b hab => pure (h a b hab)

theorem collect {f g : γ → Walk (List Violation)} {l : List γ}
    (h : ∀ a ∈ l, Agrees Violation.Same (f a) (g a)) :
    Agrees Violation.Same (Walk.collect f l) (Walk.collect g l) := by
  induction l with
  | nil => exact pure (.refl [])
  | cons a rest ih =>
      obtain ⟨hfirst, hrest⟩ := List.forall_mem_cons.mp h
      exact bind hfirst fun _ _ hsame => map (ih hrest) fun _ _ hmore => hsame.append hmore

theorem inNode {x : Walk α} {y : Walk β} (scope : Option Url) (frame : Frame)
    (hx : Agrees R x y) : Agrees R (Walk.inNode scope frame x) (Walk.inNode scope frame y) := by
  intro s
  have hinside := hx (s.enter scope frame)
  rw [inNode_apply, inNode_apply]
  generalize x (s.enter scope frame) = p, y (s.enter scope frame) = q at hinside ⊢
  cases hinside with
  | ok t hab => exact .ok _ hab
  | error e t => exact .error e _

end Agrees

/-- Parts without results and without effects can be removed from a collection. -/
theorem collect_filter {f : α → Walk (List β)} {p : α → Bool} {l : List α}
    (h : ∀ a ∈ l, p a = false → f a = Pure.pure []) : collect f (l.filter p) = collect f l := by
  induction l with
  | nil => rfl
  | cons a rest ih =>
      obtain ⟨ha, hrest⟩ := List.forall_mem_cons.mp h
      by_cases hp : p a = true
      · rw [List.filter_cons_of_pos hp, collect, collect, ih hrest]
      · have hskip : collect f (a :: rest) = collect f rest := by
          rw [collect, ha (by simpa using hp)]
          funext s
          rw [bind_of_ok (show (Pure.pure [] : Walk (List β)) s = (.ok [], s) from rfl)]
          rcases hrun : collect f rest s with ⟨e | bs, t⟩
          · exact bind_of_error hrun
          · exact bind_of_ok hrun
        rw [List.filter_cons_of_neg hp, hskip, ih hrest]

end SchemaCheck.Walk
