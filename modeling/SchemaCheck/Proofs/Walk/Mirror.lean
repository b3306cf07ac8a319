import SchemaCheck.Proofs.Walk.Pair

/-!
Two runs that mirror each other: each applies schemas of its own, and their results correspond. If
one of them fails, so does the other one, with the same failure. Neither reaches its depth limit,
and both keep their contexts and the properties of their memories.
-/

namespace SchemaCheck

/-- The property implies that all patterns in the memory are compiled correctly, and it is kept when
further ones are compiled. -/
structure Memory.Versed (I : Memory → Prop) : Prop where
  compiled : ∀ m, I m → m.Compiled
  compile : ∀ pattern m, I m → I (m.compile pattern).2

/-- Two runs, each with a memory of its own, which have the same outcome unless one of them reaches
its limit. -/
def Link.apart (I J : Memory → Prop) : Link where
  memories m n := I m ∧ J n
  left _ := False
  right _ := False
  both := (· ≠ .tooDeep)

namespace Walk

variable {α β γ δ : Type} {I J : Memory → Prop} {s t : WalkState}
variable {R : α → β → Prop} {R' : γ → δ → Prop}

inductive Mirrored (I J : Memory → Prop) (s t : WalkState) (R : α → β → Prop) :
    Except Failure α × WalkState → Except Failure β × WalkState → Prop
  | ok {a : α} {b : β} {m n : Memory} :
      R a b → I m → J n → Mirrored I J s t R (.ok a, s.remember m) (.ok b, t.remember n)
  | error {e : Failure} {m n : Memory} :
      e ≠ .tooDeep → I m → J n →
      Mirrored I J s t R (.error e, s.remember m) (.error e, t.remember n)

def Mirrors (I J : Memory → Prop) (s t : WalkState) (R : α → β → Prop) (x : Walk α)
    (y : Walk β) : Prop :=
  ∀ m n, I m → J n → Mirrored I J s t R (x (s.remember m)) (y (t.remember n))

/-- Two runs mirror each other iff they are paired and neither reaches its limit. -/
theorem mirrored_iff_paired {p : Except Failure α × WalkState} {q : Except Failure β × WalkState} :
    Mirrored I J s t R p q ↔ Paired (.apart I J) s t R p q := by
  constructor
  · rintro (⟨hab, hm, hn⟩ | ⟨he, hm, hn⟩)
    · exact .ok hab ⟨hm, hn⟩
    · exact .error ⟨hm, hn⟩ he
  · intro h
    cases h with
    | ok hab hmem => exact .ok hab hmem.1 hmem.2
    | error hmem he => exact .error he hmem.1 hmem.2
    | left h => exact h.elim
    | right h => exact h.elim

/-- Runs that mirror each other still do so if each of them leaves its context for an outer one. -/
theorem Mirrored.leave {a b : WalkState} {f g : WalkState → WalkState}
    {p : Except Failure α × WalkState} {q : Except Failure β × WalkState}
    (h : Mirrored I J s t R p q) (hf : ∀ m, f (s.remember m) = a.remember m)
    (hg : ∀ n, g (t.remember n) = b.remember n) :
    Mirrored I J a b R (p.1, f p.2) (q.1, g q.2) :=
  mirrored_iff_paired.mpr ((mirrored_iff_paired.mp h).leave hf hg)

theorem mirrors_iff_pairs {x : Walk α} {y : Walk β} :
    Mirrors I J s t R x y ↔ Pairs (.apart I J) s t R x y :=
  ⟨fun h m n hmem => mirrored_iff_paired.mp (h m n hmem.1 hmem.2),
    fun h m n hm hn => mirrored_iff_paired.mpr (h m n ⟨hm, hn⟩)⟩

theorem regular_apart (hI : Memory.Versed I) (hJ : Memory.Versed J) : Regular (.apart I J) :=
  regular_of_compiled (fun _ he => he.1) (fun m n hmem => ⟨hI.compiled m hmem.1, hJ.compiled n hmem.2⟩)
    fun pattern m n hmem => ⟨hI.compile pattern m hmem.1, hJ.compile pattern n hmem.2⟩

namespace Mirrors

theorem pure {a : α} {b : β} (h : R a b) : Mirrors I J s t R (Pure.pure a) (Pure.pure b) :=
  mirrors_iff_pairs.mpr (.pure h)

theorem bind {x : Walk α} {y : Walk β} {f : α → Walk γ} {g : β → Walk δ}
    (hx : Mirrors I J s t R x y) (hf : ∀ a b, R a b → Mirrors I J s t R' (f a) (g b)) :
    Mirrors I J s t R' (x >>= f) (y >>= g) :=
  mirrors_iff_pairs.mpr <|
    .bind (mirrors_iff_pairs.mp hx) fun a b hab => mirrors_iff_pairs.mp (hf a b hab)

theorem map {x : Walk α} {y : Walk β} {f : α → γ} {g : β → δ} (hx : Mirrors I J s t R x y)
    (h : ∀ a b, R a b → R' (f a) (g b)) :
    Mirrors I J s t R' (do return f (← x)) (do return g (← y)) :=
  bind hx fun a b hab => pure (h a b hab)

/-- A first step of the first run only. -/
theorem step_left {x : Walk γ} {p : γ → Prop} {f : γ → Walk α} {y : Walk β}
    (hx : ∀ m, I m → ∃ c n, x (s.remember m) = (.ok c, s.remember n) ∧ p c ∧ I n)
    (hf : ∀ c, p c → Mirrors I J s t R (f c) y) : Mirrors I J s t R (x >>= f) y := by
  intro m n hm hn
  obtain ⟨c, m', hrun, hc, hm'⟩ := hx m hm
  rw [bind_of_ok hrun]
  exact hf c hc m' n hm' hn

/-- A function applied to the result of the first run only, of which a further property is known. -/
theorem map_left {x : Walk γ} {y : Walk β} {R' : γ → β → Prop} {p : γ → Prop} {f : γ → α}
    (hx : Mirrors I J s t R' x y) (hp : Ensures p x) (h : ∀ c b, p c → R' c b → R (f c) b) :
    Mirrors I J s t R (do return f (← x)) y := by
  intro m n hm hn
  have hfirst := hx m n hm hn
  rcases hleft : x (s.remember m) with ⟨r, s'⟩
  generalize y (t.remember n) = q at hfirst ⊢
  rw [hleft] at hfirst
  cases hfirst with
  | ok hab hm' hn' =>
      rw [bind_of_ok hleft]
      exact .ok (h _ _ (hp _ _ (by rw [hleft])) hab) hm' hn'
  | error he hm' hn' =>
      rw [bind_of_error hleft]
      exact .error he hm' hn'

/-- The first run only follows a reference, which is not open yet. -/
theorem follow_left {w : Walker} {reference : String} {target : Target} {subject : Subject}
    {R : List Violation → β → Prop} {y : Walk β}
    (hnew : (target.url.write, subject.place) ∉ s.following)
    (h : Mirrors I J (s.jump target subject) t R
      (w.visit subject target.schema s.frame.refOverride) y) :
    Mirrors I J s t R (w.follow reference target subject) y := by
  intro m n hm hn
  have hnot : ¬ (w.findsCycles ∧ s.following.contains (target.url.write, subject.place)) :=
    fun hcircle => hnew (by simpa using hcircle.2)
  rw [follow_apply, if_neg (show ¬ (w.findsCycles ∧ (s.remember m).following.contains _) from hnot)]
  exact (h m n hm hn).leave
    (f := fun s => { s with scopes := s.scopes.pop.2, following := s.following.tail }) (g := id)
    (fun _ => rfl) fun _ => rfl

/-- Collections over a list and over its image under a map. -/
theorem collect {f : γ → Walk (List Violation)} {g : δ → Walk (List Violation)} {c : γ → δ}
    {l : List γ} (h : ∀ a ∈ l, Mirrors I J s t Violation.Same (f a) (g (c a))) :
    Mirrors I J s t Violation.Same (Walk.collect f l) (Walk.collect g (l.map c)) :=
  mirrors_iff_pairs.mpr <|
    .collect Violation.likeness_same fun a ha => mirrors_iff_pairs.mp (h a ha)

end Mirrors

end Walk

end SchemaCheck
