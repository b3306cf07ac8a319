import Mathlib.Data.List.Forall2
import SchemaCheck.Proofs.Walk.Link

/-!
Properties of results in a given context, for all memories with a given property. A computation with
a result keeps the context and the property of the memory, and the result has some property. Runs
that fail are not restricted.
-/

namespace SchemaCheck.Walk

variable {α β : Type} {I : Memory → Prop} {s : WalkState}

def Answers (I : Memory → Prop) (s : WalkState) (q : α → Prop) (x : Walk α) : Prop :=
  ∀ m, I m → ∀ a t, x (s.remember m) = (.ok a, t) → q a ∧ ∃ n, I n ∧ t = s.remember n

/-- If a sequence of two computations has a result, both computations have one. -/
theorem exists_of_bind_ok {x : Walk β} {f : β → Walk α} {a : α} {t : WalkState}
    (h : (x >>= f) s = (.ok a, t)) : ∃ b u, x s = (.ok b, u) ∧ f b u = (.ok a, t) := by
  rcases hfirst : x s with ⟨e | b, u⟩
  · rw [bind_of_error hfirst] at h
    cases h
  · rw [bind_of_ok hfirst] at h
    exact ⟨b, u, rfl, h⟩

namespace Answers

variable {q : α → Prop} {p : β → Prop}

theorem pure {a : α} (h : q a) : Answers I s q (pure a) := by
  rintro m hm b t ⟨⟩
  exact ⟨h, m, hm, rfl⟩

theorem fail (e : Failure) : Answers I s q (Walk.fail e) := by
  rintro m hm a t ⟨⟩

theorem bind {x : Walk β} {f : β → Walk α} (hx : Answers I s p x)
    (hf : ∀ b, p b → Answers I s q (f b)) : Answers I s q (x >>= f) := by
  intro m hm a t hrun
  obtain ⟨b, u, hfirst, hnext⟩ := exists_of_bind_ok hrun
  obtain ⟨hb, n, hn, rfl⟩ := hx m hm b u hfirst
  exact hf b hb n hn a t hnext

theorem mono {q' : α → Prop} {x : Walk α} (hx : Answers I s q x) (h : ∀ a, q a → q' a) :
    Answers I s q' x := by
  intro m hm a t hrun
  obtain ⟨ha, hafter⟩ := hx m hm a t hrun
  exact ⟨h a ha, hafter⟩

theorem map {x : Walk β} {f : β → α} (hx : Answers I s p x) (h : ∀ b, p b → q (f b)) :
    Answers I s q (do return f (← x)) :=
  bind hx fun b hb => pure (h b hb)

theorem each {f : β → Walk α} {r : β → α → Prop} {l : List β}
    (h : ∀ b ∈ l, Answers I s (r b) (f b)) : Answers I s (List.Forall₂ r l) (each f l) := by
  induction l with
  | nil => exact pure .nil
  | cons b rest ih =>
      obtain ⟨hb, hrest⟩ := List.forall_mem_cons.mp h
      exact bind hb fun a ha => map (ih hrest) fun as has => .cons ha has

/-- A collection lists the results of its parts in order. -/
theorem collect {f : β → Walk (List α)} {r : β → List α → Prop} {l : List β}
    (h : ∀ b ∈ l, Answers I s (r b) (f b)) :
    Answers I s (fun as => ∃ parts, List.Forall₂ r l parts ∧ as = parts.flatten)
      (collect f l) := by
  induction l with
  | nil => exact pure ⟨[], .nil, rfl⟩
  | cons b rest ih =>
      obtain ⟨hb, hrest⟩ := List.forall_mem_cons.mp h
      refine bind hb fun as has => map (ih hrest) ?_
      rintro more ⟨parts, hparts, rfl⟩
      exact ⟨as :: parts, .cons has hparts, rfl⟩

/-- A property of all results of the parts holds for all results of the collection. -/
theorem lists {f : β → Walk (List α)} {l : List β}
    (h : ∀ b ∈ l, Answers I s (fun as => ∀ a ∈ as, q a) (f b)) :
    Answers I s (fun as => ∀ a ∈ as, q a) (Walk.collect f l) := by
  induction l with
  | nil => exact pure fun _ ha => nomatch ha
  | cons b rest ih =>
      obtain ⟨hb, hrest⟩ := List.forall_mem_cons.mp h
      refine bind hb fun as has => map (ih hrest) fun more hmore a ha => ?_
      exact (List.mem_append.mp ha).elim (has a) (hmore a)

end Answers

end SchemaCheck.Walk
