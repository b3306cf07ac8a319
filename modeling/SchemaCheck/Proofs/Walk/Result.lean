import SchemaCheck.Walk

/-!
Properties of all results of a computation, from any state. Runs that fail are not restricted. There
is one rule for each way of combining computations, so that properties of results are proved along
the definition of a computation and without its states.
-/

namespace SchemaCheck.Walk

variable {α β : Type}

/-- Every result of `x` satisfies `p`. -/
def Ensures (p : α → Prop) (x : Walk α) : Prop :=
  ∀ s a, (x s).1 = .ok a → p a

namespace Ensures

variable {p : α → Prop} {q : β → Prop}

theorem pure {a : α} (h : p a) : Ensures p (pure a) := by
  rintro s b ⟨⟩
  exact h

theorem fail (e : Failure) : Ensures p (Walk.fail e) := by
  rintro s b ⟨⟩

theorem bind {x : Walk β} {f : β → Walk α} (hx : Ensures q x) (hf : ∀ b, q b → Ensures p (f b)) :
    Ensures p (x >>= f) := by
  intro s a h
  change (Walk.bind x f s).1 = .ok a at h
  unfold Walk.bind at h
  split at h
  next b t hrun => exact hf b (hx s b (by rw [hrun])) t a h
  next => cases h

/-- The result of the first part is not restricted. -/
theorem after {x : Walk β} {f : β → Walk α} (hf : ∀ b, Ensures p (f b)) : Ensures p (x >>= f) :=
  bind (q := fun _ => True) (fun _ _ _ => trivial) fun b _ => hf b

/-- The second parts only have to agree on possible results of the first part. -/
theorem bind_congr {x : Walk β} {f g : β → Walk α} (hx : Ensures q x)
    (h : ∀ b, q b → f b = g b) : x >>= f = x >>= g := by
  funext s
  show Walk.bind x f s = Walk.bind x g s
  unfold Walk.bind
  rcases hrun : x s with ⟨e | b, t⟩
  · rfl
  · exact congrFun (h b (hx s b (by rw [hrun]))) t

theorem mono {p' : α → Prop} {x : Walk α} (hx : Ensures p x) (h : ∀ a, p a → p' a) :
    Ensures p' x :=
  fun s a ha => h a (hx s a ha)

theorem ensuring {x : Walk α} {f : WalkState → WalkState} (hx : Ensures p x) :
    Ensures p (ensuring x f) :=
  fun s a h => hx s a h

theorem inScope {x : Walk α} {u : Url} (hx : Ensures p x) : Ensures p (inScope u x) :=
  after fun _ => hx.ensuring

theorem inNode {x : Walk α} {scope : Option Url} {frame : Frame} (hx : Ensures p x) :
    Ensures p (inNode scope frame x) := by
  refine after fun s => ?_
  have hframed : Ensures p (do
      update fun t => { t with frame }
      Walk.ensuring x fun t => { t with frame := s.frame }) := after fun _ => hx.ensuring
  cases scope with
  | none => exact hframed
  | some u => exact hframed.inScope

end Ensures

/-- Every element of a result of `x` satisfies `p`. -/
def Lists (p : α → Prop) (x : Walk (List α)) : Prop :=
  Ensures (fun as => ∀ a ∈ as, p a) x

namespace Lists

variable {p : α → Prop}

theorem pure {as : List α} (h : ∀ a ∈ as, p a) : Lists p (pure as) :=
  Ensures.pure h

theorem nil : Lists p (Pure.pure []) :=
  pure fun _ h => nomatch h

theorem singleton {a : α} (h : p a) : Lists p (Pure.pure [a]) :=
  pure fun b hb => by
    rw [List.mem_singleton.mp hb]
    exact h

theorem fail (e : Failure) : Lists p (Walk.fail e) :=
  Ensures.fail e

theorem bind {x : Walk β} {q : β → Prop} {f : β → Walk (List α)} (hx : Ensures q x)
    (hf : ∀ b, q b → Lists p (f b)) : Lists p (x >>= f) :=
  Ensures.bind hx hf

theorem after {x : Walk β} {f : β → Walk (List α)} (hf : ∀ b, Lists p (f b)) :
    Lists p (x >>= f) :=
  Ensures.after hf

theorem mono {q : α → Prop} {x : Walk (List α)} (hx : Lists q x) (h : ∀ a, q a → p a) :
    Lists p x :=
  Ensures.mono hx fun _ has a ha => h a (has a ha)

theorem map {x : Walk (List β)} {q : β → Prop} {f : β → α} (hx : Lists q x)
    (hf : ∀ b, q b → p (f b)) : Lists p (x >>= fun bs => Pure.pure (bs.map f)) := by
  refine bind hx fun bs hbs => pure fun a ha => ?_
  obtain ⟨b, hb, rfl⟩ := List.mem_map.mp ha
  exact hf b (hbs b hb)

theorem append {x y : Walk (List α)} (hx : Lists p x) (hy : Lists p y) :
    Lists p (x >>= fun as => y >>= fun bs => Pure.pure (as ++ bs)) := by
  refine bind hx fun as has => bind hy fun bs hbs => pure fun a ha => ?_
  exact (List.mem_append.mp ha).elim (has a) (hbs a)

theorem collect {f : β → Walk (List α)} {l : List β} (h : ∀ b ∈ l, Lists p (f b)) :
    Lists p (collect f l) := by
  induction l with
  | nil => exact nil
  | cons b rest ih =>
      exact append (h b List.mem_cons_self) (ih fun c hc => h c (List.mem_cons_of_mem _ hc))

end Lists

end SchemaCheck.Walk
