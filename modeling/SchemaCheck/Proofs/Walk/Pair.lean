import Mathlib.Data.List.Forall2
import SchemaCheck.Proofs.Walk.Agree
import SchemaCheck.Proofs.Walk.Link

/-!
Two runs with corresponding results, where linked runs have equal results. Each run may apply
schemas of its own. Two computations are paired if from any related memories they have corresponding
results and related memories again, or a failure that the link excuses. Lists of violations can
correspond in several ways, all of which keywords respect.
-/

namespace SchemaCheck

namespace Violation

/-- A relation between lists of violations that keywords respect. Keywords only depend on whether
there are violations, and the messages of their own ones may differ. -/
structure Likeness (E : List Violation → List Violation → Prop) : Prop where
  refl : ∀ vs, E vs vs
  append : ∀ {vs ws vs' ws' : List Violation}, E vs ws → E vs' ws' → E (vs ++ vs') (ws ++ ws')
  isEmpty : ∀ {vs ws : List Violation}, E vs ws → vs.isEmpty = ws.isEmpty
  nested : ∀ {vs ws : List Violation} (path schemaPath : Option Step), E vs ws →
    E (vs.map (·.nested path schemaPath)) (ws.map (·.nested path schemaPath))
  ofMessage : ∀ text other : String, E [.ofMessage text] [.ofMessage other]
  withContext : ∀ {vs ws : List Violation} (text other : String), E vs ws →
    E [(Violation.ofMessage text).withContext vs] [(Violation.ofMessage other).withContext ws]

theorem likeness_same : Likeness Same where
  refl := .refl
  append := .append
  isEmpty := Same.isEmpty
  nested path schemaPath := .map fun _ _ => outline_nested path schemaPath
  ofMessage text other := .singleton (outline_ofMessage text other)
  withContext text other h := .singleton (outline_withContext text other h)

/-- Both lists are empty or neither is. -/
def Concur (vs ws : List Violation) : Prop :=
  vs = [] ↔ ws = []

namespace Concur

variable {vs ws vs' ws' : List Violation}

theorem refl (vs : List Violation) : Concur vs vs := .rfl

theorem of_cons {v w : Violation} : Concur (v :: vs) (w :: ws) :=
  iff_of_false nofun nofun

theorem of_same (h : Same vs ws) : Concur vs ws := by
  rw [Concur, ← List.isEmpty_iff, h.isEmpty, List.isEmpty_iff]

theorem append (h : Concur vs ws) (h' : Concur vs' ws') : Concur (vs ++ vs') (ws ++ ws') := by
  rw [Concur, List.append_eq_nil_iff, List.append_eq_nil_iff]
  exact and_congr h h'

theorem map {f g : Violation → Violation} (h : Concur vs ws) : Concur (vs.map f) (ws.map g) := by
  rw [Concur, List.map_eq_nil_iff, List.map_eq_nil_iff]
  exact h

theorem isEmpty (h : Concur vs ws) : vs.isEmpty = ws.isEmpty := by
  rw [Bool.eq_iff_iff, List.isEmpty_iff, List.isEmpty_iff]
  exact h

end Concur

theorem likeness_concur : Likeness Concur where
  refl := .refl
  append := .append
  isEmpty := Concur.isEmpty
  nested _ _ := .map
  ofMessage _ _ := .of_cons
  withContext _ _ _ := .of_cons

end Violation

namespace Walk

open Violation (Likeness)

variable {α β γ δ : Type} {L : Link} {s t : WalkState} {R : α → β → Prop} {R' : γ → δ → Prop}
variable {E : List Violation → List Violation → Prop}

/-- Two runs end in the contexts `s` and `t` with corresponding results and related memories, unless
one of them is excused. -/
inductive Paired (L : Link) (s t : WalkState) (R : α → β → Prop) :
    Except Failure α × WalkState → Except Failure β × WalkState → Prop
  | ok {a : α} {b : β} {m n : Memory} :
      R a b → L.memories m n → Paired L s t R (.ok a, s.remember m) (.ok b, t.remember n)
  | error {e : Failure} {m n : Memory} :
      L.memories m n → L.both e → Paired L s t R (.error e, s.remember m) (.error e, t.remember n)
  | left {e : Failure} {s' : WalkState} {q : Except Failure β × WalkState} :
      L.left e → Paired L s t R (.error e, s') q
  | right {e : Failure} {p : Except Failure α × WalkState} {t' : WalkState} :
      L.right e → Paired L s t R p (.error e, t')

/-- Paired runs are still paired if each of them leaves its context for an outer one. -/
theorem Paired.leave {a b : WalkState} {f g : WalkState → WalkState}
    {p : Except Failure α × WalkState} {q : Except Failure β × WalkState}
    (h : Paired L s t R p q) (hf : ∀ m, f (s.remember m) = a.remember m)
    (hg : ∀ n, g (t.remember n) = b.remember n) :
    Paired L a b R (p.1, f p.2) (q.1, g q.2) := by
  cases h with
  | ok hab hmem =>
      dsimp only
      rw [hf, hg]
      exact .ok hab hmem
  | error hmem h =>
      dsimp only
      rw [hf, hg]
      exact .error hmem h
  | left h => exact .left h
  | right h => exact .right h

def Pairs (L : Link) (s t : WalkState) (R : α → β → Prop) (x : Walk α) (y : Walk β) : Prop :=
  ∀ m n, L.memories m n → Paired L s t R (x (s.remember m)) (y (t.remember n))

theorem meets_iff_paired {p q : Except Failure α × WalkState} :
    Meets L s t p q ↔ Paired L s t (· = ·) p q := by
  constructor
  · intro h
    cases h with
    | ok hmem => exact .ok rfl hmem
    | error hmem h => exact .error hmem h
    | left h => exact .left h
    | right h => exact .right h
  · intro h
    cases h with
    | ok hab hmem =>
        cases hab
        exact .ok hmem
    | error hmem h => exact .error hmem h
    | left h => exact .left h
    | right h => exact .right h

/-- Computations are linked iff they are paired by equality of results. -/
theorem linked_iff_pairs {x y : Walk α} : Linked L s t x y ↔ Pairs L s t (· = ·) x y :=
  ⟨fun h m n hmem => meets_iff_paired.mp (h m n hmem),
    fun h m n hmem => meets_iff_paired.mpr (h m n hmem)⟩

theorem Linked.pairs {x y : Walk α} (h : Linked L s t x y) : Pairs L s t (· = ·) x y :=
  linked_iff_pairs.mp h

/-- A program that applies no schemas and follows no references has the same result in both runs. -/
theorem Program.linked_none {subject : Subject} {x : Walker → Walk α}
    (hx : Program (.none subject) x) (hL : Regular L) (w w' : Walker) :
    Linked L s t (x w) (x w') :=
  hx.linked hL
    { resolve := fun _ h => h.elim
      descend := fun _ _ _ h => h.elim
      branch := fun _ h => h.elim
      refer := fun _ h => h.elim }

namespace Pairs

theorem pure {a : α} {b : β} (h : R a b) : Pairs L s t R (Pure.pure a) (Pure.pure b) :=
  fun _ _ hmem => .ok h hmem

theorem bind {x : Walk α} {y : Walk β} {f : α → Walk γ} {g : β → Walk δ}
    (hx : Pairs L s t R x y) (hf : ∀ a b, R a b → Pairs L s t R' (f a) (g b)) :
    Pairs L s t R' (x >>= f) (y >>= g) := by
  intro m n hmem
  have hfirst := hx m n hmem
  rcases hleft : x (s.remember m) with ⟨r, s'⟩
  rcases hright : y (t.remember n) with ⟨r', t'⟩
  rw [hleft, hright] at hfirst
  cases hfirst with
  | ok hab hmem' =>
      rw [bind_of_ok hleft, bind_of_ok hright]
      exact hf _ _ hab _ _ hmem'
  | error hmem' h =>
      rw [bind_of_error hleft, bind_of_error hright]
      exact .error hmem' h
  | left h =>
      rw [bind_of_error hleft]
      exact .left h
  | right h =>
      rw [bind_of_error hright]
      exact .right h

theorem mono {Q : α → β → Prop} {x : Walk α} {y : Walk β} (hx : Pairs L s t R x y)
    (h : ∀ a b, R a b → Q a b) : Pairs L s t Q x y := by
  intro m n hmem
  have hfirst := hx m n hmem
  generalize x (s.remember m) = p, y (t.remember n) = q at hfirst ⊢
  cases hfirst with
  | ok hab hmem' => exact .ok (h _ _ hab) hmem'
  | error hmem' he => exact .error hmem' he
  | left he => exact .left he
  | right he => exact .right he

theorem map {x : Walk α} {y : Walk β} {f : α → γ} {g : β → δ} (hx : Pairs L s t R x y)
    (h : ∀ a b, R a b → R' (f a) (g b)) :
    Pairs L s t R' (do return f (← x)) (do return g (← y)) :=
  bind hx fun a b hab => pure (h a b hab)

/-- The second computation can be replaced by one that agrees with it. -/
theorem agrees_right {Q : α → γ → Prop} {S : β → γ → Prop} {x : Walk α} {y : Walk β} {z : Walk γ}
    (hx : Pairs L s t R x y) (hy : Agrees S y z) (h : ∀ a b c, R a b → S b c → Q a c) :
    Pairs L s t Q x z := by
  intro m n hmem
  have hfirst := hx m n hmem
  have hsecond := hy (t.remember n)
  generalize x (s.remember m) = p, y (t.remember n) = q at hfirst hsecond
  generalize z (t.remember n) = o at hsecond ⊢
  cases hsecond with
  | ok u hbc =>
      cases hfirst with
      | ok hab hmem' => exact .ok (h _ _ _ hab hbc) hmem'
      | left he => exact .left he
  | error e u =>
      cases hfirst with
      | error hmem' he => exact .error hmem' he
      | left he => exact .left he
      | right he => exact .right he

/-- Collections over lists with corresponding elements. -/
theorem collect_forall₂ {f : γ → Walk (List Violation)} {g : δ → Walk (List Violation)} {l : List γ}
    {l' : List δ} (hE : Likeness E)
    (h : List.Forall₂ (fun c d => Pairs L s t E (f c) (g d)) l l') :
    Pairs L s t E (Walk.collect f l) (Walk.collect g l') := by
  induction h with
  | nil => exact pure (hE.refl [])
  | cons hfirst _ ih => exact bind hfirst fun _ _ h => map ih fun _ _ h' => hE.append h h'

/-- Collections over a list and over its image under a map. -/
theorem collect {f : γ → Walk (List Violation)} {g : δ → Walk (List Violation)} {c : γ → δ}
    {l : List γ} (hE : Likeness E) (h : ∀ a ∈ l, Pairs L s t E (f a) (g (c a))) :
    Pairs L s t E (Walk.collect f l) (Walk.collect g (l.map c)) := by
  refine collect_forall₂ hE (List.forall₂_map_right_iff.mpr ?_)
  exact List.forall₂_same.mpr h

/-- Collections over the same list. -/
theorem collect_same {f g : γ → Walk (List Violation)} {l : List γ} (hE : Likeness E)
    (h : ∀ a ∈ l, Pairs L s t E (f a) (g a)) :
    Pairs L s t E (Walk.collect f l) (Walk.collect g l) :=
  collect_forall₂ hE (List.forall₂_same.mpr h)

end Pairs

end Walk

end SchemaCheck
