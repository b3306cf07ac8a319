import SchemaCheck.Proofs.Walk.Answer
import SchemaCheck.Proofs.Walk.Mirror

/-!
A run compared with a more lenient one. If the first run has a result, so does the second one, and
the results correspond; failures of the first run are not restricted. Both keep their contexts and
the properties of their memories. For lists of violations the relation is that the second run finds
none if the first one finds none.
-/

namespace SchemaCheck

/-- If the first list is empty, so is the second one. -/
def Violation.Clears (vs ws : List Violation) : Prop :=
  vs = [] → ws = []

namespace Violation.Clears

variable {vs ws vs' ws' : List Violation}

theorem refl (vs : List Violation) : Clears vs vs := id

theorem nil_right (vs : List Violation) : Clears vs [] := fun _ => rfl

theorem of_cons {v : Violation} : Clears (v :: vs) ws := nofun

theorem append (h : Clears vs ws) (h' : Clears vs' ws') : Clears (vs ++ vs') (ws ++ ws') := by
  intro hnil
  obtain ⟨hfirst, hmore⟩ := List.append_eq_nil_iff.mp hnil
  rw [h hfirst, h' hmore, List.append_nil]

theorem map {f g : Violation → Violation} (h : Clears vs ws) : Clears (vs.map f) (ws.map g) := by
  intro hnil
  rw [h (List.map_eq_nil_iff.mp hnil), List.map_nil]

/-- Further violations of the first run do not matter. -/
theorem append_left (h : Clears vs ws) (more : List Violation) : Clears (more ++ vs) ws :=
  fun hnil => h (List.append_eq_nil_iff.mp hnil).2

theorem isEmpty (h : Clears vs ws) (hempty : vs.isEmpty = true) : ws.isEmpty = true := by
  rw [h (List.isEmpty_iff.mp hempty)]
  rfl

end Violation.Clears

namespace Walk

open Violation (Clears)

variable {α β γ δ : Type} {I J : Memory → Prop} {s t : WalkState}
variable {R : α → β → Prop} {R' : γ → δ → Prop}

def Relaxes (I J : Memory → Prop) (s t : WalkState) (R : α → β → Prop) (x : Walk α)
    (y : Walk β) : Prop :=
  ∀ m n, I m → J n → ∀ a s', x (s.remember m) = (.ok a, s') →
    ∃ b m' n', R a b ∧ I m' ∧ J n' ∧ s' = s.remember m' ∧
      y (t.remember n) = (.ok b, t.remember n')

theorem Linked.relaxes {L : Link} {x y : Walk α} (h : Linked L s t x y)
    (hmemories : ∀ m n, L.memories m n ↔ I m ∧ J n) (hright : ∀ e, ¬ L.right e) :
    Relaxes I J s t (· = ·) x y := by
  intro m n hm hn a s' hrun
  have hmeets := h m n ((hmemories m n).mpr ⟨hm, hn⟩)
  rw [hrun] at hmeets
  generalize hq : y (t.remember n) = q at hmeets ⊢
  cases hmeets with
  | ok hmem =>
      obtain ⟨hm', hn'⟩ := (hmemories _ _).mp hmem
      exact ⟨_, _, _, rfl, hm', hn', rfl, rfl⟩
  | right h => exact absurd h (hright _)

/-- Patterns have the same result in both runs. -/
theorem relaxes_regex (hI : Memory.Versed I) (hJ : Memory.Versed J) (pattern : String) :
    Relaxes I J s t (· = ·) (Walk.regex pattern) (Walk.regex pattern) :=
  ((regular_apart hI hJ).regex pattern s t).relaxes (fun _ _ => .rfl) fun _ => id

/-- A program that applies no schemas and follows no references has the same result in both runs. -/
theorem Program.relaxes {subject : Subject} {x : Walker → Walk α} (hx : Program (.none subject) x)
    (hI : Memory.Versed I) (hJ : Memory.Versed J) (w w' : Walker) :
    Relaxes I J s t (· = ·) (x w) (x w') :=
  (hx.linked_none (regular_apart hI hJ) w w').relaxes (fun _ _ => .rfl) fun _ => id

namespace Relaxes

theorem pure {a : α} {b : β} (h : R a b) : Relaxes I J s t R (Pure.pure a) (Pure.pure b) := by
  rintro m n hm hn _ _ ⟨⟩
  exact ⟨b, m, n, h, hm, hn, rfl, rfl⟩

theorem fail (e : Failure) (y : Walk β) : Relaxes I J s t R (Walk.fail e : Walk α) y := by
  rintro m n hm hn _ _ ⟨⟩

theorem bind {x : Walk α} {y : Walk β} {f : α → Walk γ} {g : β → Walk δ}
    (hx : Relaxes I J s t R x y) (hf : ∀ a b, R a b → Relaxes I J s t R' (f a) (g b)) :
    Relaxes I J s t R' (x >>= f) (y >>= g) := by
  intro m n hm hn c s' hrun
  obtain ⟨a, u, hfirst, hnext⟩ := exists_of_bind_ok hrun
  obtain ⟨b, m', n', hab, hm', hn', rfl, hsecond⟩ := hx m n hm hn a u hfirst
  rw [bind_of_ok hsecond]
  exact hf a b hab m' n' hm' hn' c s' hnext

theorem mono {Q : α → β → Prop} {x : Walk α} {y : Walk β} (hx : Relaxes I J s t R x y)
    (h : ∀ a b, R a b → Q a b) : Relaxes I J s t Q x y := by
  intro m n hm hn a s' hrun
  obtain ⟨b, m', n', hab, hrest⟩ := hx m n hm hn a s' hrun
  exact ⟨b, m', n', h a b hab, hrest⟩

theorem map {x : Walk α} {y : Walk β} {f : α → γ} {g : β → δ} (hx : Relaxes I J s t R x y)
    (h : ∀ a b, R a b → R' (f a) (g b)) :
    Relaxes I J s t R' (do return f (← x)) (do return g (← y)) :=
  bind hx fun a b hab => pure (h a b hab)

/-- A first step of the first run only. -/
theorem step_left {x : Walk γ} {f : γ → Walk α} {y : Walk β}
    (hx : Answers I s (fun _ => True) x) (hf : ∀ c, Relaxes I J s t R (f c) y) :
    Relaxes I J s t R (x >>= f) y := by
  intro m n hm hn a s' hrun
  obtain ⟨c, u, hfirst, hnext⟩ := exists_of_bind_ok hrun
  obtain ⟨-, m', hm', rfl⟩ := hx m hm c u hfirst
  exact hf c m' n hm' hn a s' hnext

/-- The second run stops early, with a result that corresponds to every result of the first one. -/
theorem stop {Q : α → δ → Prop} {x : Walk α} {y : Walk δ} {b : β} (hx : Relaxes I J s t Q x y)
    (h : ∀ a, R a b) : Relaxes I J s t R x (Pure.pure b) := by
  intro m n hm hn a s' hrun
  obtain ⟨_, m', -, -, hm', -, hleft, -⟩ := hx m n hm hn a s' hrun
  exact ⟨b, m', n, h a, hm', hn, hleft, rfl⟩

theorem collect {f g : γ → Walk (List Violation)} {l : List γ}
    (h : ∀ a ∈ l, Relaxes I J s t Clears (f a) (g a)) :
    Relaxes I J s t Clears (Walk.collect f l) (Walk.collect g l) := by
  induction l with
  | nil => exact pure (.refl [])
  | cons a rest ih =>
      obtain ⟨hfirst, hrest⟩ := List.forall_mem_cons.mp h
      exact bind hfirst fun _ _ hclears => map (ih hrest) fun _ _ hmore => hclears.append hmore

/-- Both runs leave their contexts for outer ones. -/
theorem leave {a b : WalkState} {x x' : Walk α} {y y' : Walk β} {f g : WalkState → WalkState}
    (h : Relaxes I J s t R x y)
    (hx : ∀ m, x' (a.remember m) = ((x (s.remember m)).1, f (x (s.remember m)).2))
    (hy : ∀ n, y' (b.remember n) = ((y (t.remember n)).1, g (y (t.remember n)).2))
    (hf : ∀ m, f (s.remember m) = a.remember m) (hg : ∀ n, g (t.remember n) = b.remember n) :
    Relaxes I J a b R x' y' := by
  intro m n hm hn c s' hrun
  rw [hx] at hrun
  obtain ⟨hresult, rfl⟩ := Prod.mk.inj hrun
  obtain ⟨d, m', n', hcd, hm', hn', hleft, hright⟩ :=
    h m n hm hn c _ (Prod.ext hresult rfl)
  refine ⟨d, m', n', hcd, hm', hn', (congrArg f hleft).trans (hf m'), ?_⟩
  rw [hy, hright, hg]

end Relaxes

end Walk

end SchemaCheck
