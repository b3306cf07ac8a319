import Mathlib.Tactic.Choose
import SchemaCheck.Proofs.Walk.Mirror

/-!
The outcome of a computation that does not depend on the memory, and two such computations side by
side. Only results are compared here: if the first computation has one, so does the second one,
unless its failures are excused. The results of several computations then correspond in whatever
order they are run.
-/

namespace SchemaCheck

/-- Two runs, each with a memory of its own, of which the first one may fail, and the second one
only if it is excused. -/
def Link.results (I J : Memory → Prop) (excused : Prop) : Link where
  memories m n := I m ∧ J n
  left _ := True
  right _ := excused
  both _ := True

/-- For each result of the first run the second one has a corresponding result, unless it is excused
from failing. -/
def Failure.Rated {α β : Type} (excused : Prop) (R : α → β → Prop) (p : Except Failure α)
    (q : Except Failure β) : Prop :=
  ∀ a, p = .ok a → (∃ b, q = .ok b ∧ R a b) ∨ (excused ∧ ∃ e, q = .error e)

namespace Walk

open Failure (Rated)

variable {α β γ : Type} {I J : Memory → Prop} {excused : Prop} {s t : WalkState}
variable {R : α → β → Prop} {x : Walk α} {y : Walk β}

theorem regular_results (hI : Memory.Versed I) (hJ : Memory.Versed J) :
    Regular (.results I J excused) :=
  regular_of_compiled (fun _ _ => trivial)
    (fun m n hmem => ⟨hI.compiled m hmem.1, hJ.compiled n hmem.2⟩)
    fun pattern m n hmem => ⟨hI.compile pattern m hmem.1, hJ.compile pattern n hmem.2⟩

/-- A target is followed if the corresponding one is. -/
theorem pairs_follow {w w' : Walker} {reference : String} {target target' : Target}
    {subject : Subject} {E : List Violation → List Violation → Prop}
    (hcycles : w'.findsCycles = w.findsCycles) (hurl : target'.url = target.url)
    (h : Pairs (.results I J excused) (s.jump target subject) (s.jump target subject) E
      (w.visit subject target.schema s.frame.refOverride)
      (w'.visit subject target'.schema s.frame.refOverride)) :
    Pairs (.results I J excused) s s E (w.follow reference target subject)
      (w'.follow reference target' subject) := by
  obtain ⟨url', schema'⟩ := target'
  obtain rfl : url' = target.url := hurl
  intro m n hmem
  by_cases hcircle : w.findsCycles ∧ s.following.contains (target.url.write, subject.place)
  · rw [follow_of_circle (s := s.remember m) hcircle]
    exact .left trivial
  · have hcircle' : ¬ (w'.findsCycles ∧ s.following.contains (target.url.write, subject.place)) :=
      fun h => hcircle ⟨hcycles.symm.trans h.1, h.2⟩
    rw [follow_apply, follow_apply,
      if_neg (show ¬ (_ ∧ (s.remember m).following.contains _) from hcircle),
      if_neg (show ¬ (_ ∧ (s.remember n).following.contains _) from hcircle')]
    exact (h m n hmem).leave
      (f := fun s => { s with scopes := s.scopes.pop.2, following := s.following.tail })
      (g := fun s => { s with scopes := s.scopes.pop.2, following := s.following.tail })
      (fun _ => rfl) fun _ => rfl

/-- The results of paired runs. -/
theorem Paired.rated {p : Except Failure α × WalkState} {q : Except Failure β × WalkState}
    (h : Paired (.results I J excused) s t R p q) : Rated excused R p.1 q.1 := by
  intro a ha
  cases h with
  | ok hab _ =>
      cases ha
      exact .inl ⟨_, rfl, hab⟩
  | error _ _ => cases ha
  | left _ => cases ha
  | right hexcused => exact .inr ⟨hexcused, _, rfl⟩

/-- From every memory for which `I` holds, the computation has the given outcome, keeps its context
and keeps `I`. -/
def ComesTo (I : Memory → Prop) (s : WalkState) (result : Except Failure α) (x : Walk α) : Prop :=
  ∀ m, I m → ∃ n, I n ∧ x (s.remember m) = (result, s.remember n)

variable {result : Except Failure α} {result' : Except Failure β}

/-- Computations are paired if their outcomes correspond. -/
theorem ComesTo.pairs (hx : ComesTo I s result x) (hy : ComesTo J t result' y)
    (h : Rated excused R result result') : Pairs (.results I J excused) s t R x y := by
  rintro m n ⟨hm, hn⟩
  obtain ⟨m', hm', hleft⟩ := hx m hm
  obtain ⟨n', hn', hright⟩ := hy n hn
  rw [hleft, hright]
  cases result with
  | error e => exact .left trivial
  | ok a =>
      rcases h a rfl with ⟨b, rfl, hab⟩ | ⟨hexcused, e, rfl⟩
      · exact .ok hab ⟨hm', hn'⟩
      · exact .right hexcused

theorem ComesTo.rated (hx : ComesTo I s result x) (hy : ComesTo J t result' y)
    (h : Pairs (.results I J excused) s t R x y) {m n : Memory} (hm : I m) (hn : J n) :
    Rated excused R result result' := by
  obtain ⟨m', -, hleft⟩ := hx m hm
  obtain ⟨n', -, hright⟩ := hy n hn
  have hpaired := (h m n ⟨hm, hn⟩).rated
  rwa [hleft, hright] at hpaired

/-- The list consists of the results for the members of `l`, in any order. -/
structure ResultsOf (results : γ → Except Failure α) (l : List γ) (as : List α) : Prop where
  of_mem : ∀ c ∈ l, ∃ a ∈ as, results c = .ok a
  mem : ∀ a ∈ as, ∃ c ∈ l, results c = .ok a

namespace ResultsOf

variable {results : γ → Except Failure α} {results' : γ → Except Failure β} {l l' : List γ}
variable {as : List α} {bs : List β}

theorem cons {c : γ} {a : α} (h : ResultsOf results l as) (hc : results c = .ok a) :
    ResultsOf results (c :: l) (a :: as) where
  of_mem := by
    refine List.forall_mem_cons.mpr ⟨⟨a, List.mem_cons_self, hc⟩, fun d hd => ?_⟩
    obtain ⟨b, hb, hresult⟩ := h.of_mem d hd
    exact ⟨b, List.mem_cons_of_mem _ hb, hresult⟩
  mem := by
    refine List.forall_mem_cons.mpr ⟨⟨c, List.mem_cons_self, hc⟩, fun b hb => ?_⟩
    obtain ⟨d, hd, hresult⟩ := h.mem b hb
    exact ⟨d, List.mem_cons_of_mem _ hd, hresult⟩

/-- Results for lists with the same members correspond. -/
theorem rated (h : ResultsOf results l as) (hsame : ∀ c, c ∈ l ↔ c ∈ l')
    (h' : ResultsOf results' l' bs) (hrated : ∀ c ∈ l, Rated excused R (results c) (results' c)) :
    (∀ a ∈ as, ∃ b ∈ bs, R a b) ∧ ∀ b ∈ bs, ∃ a ∈ as, R a b := by
  have hboth {c : γ} {a : α} {b : β} (hc : c ∈ l) (ha : results c = .ok a)
      (hb : results' c = .ok b) : R a b := by
    rcases hrated c hc a ha with ⟨b', hb', hab⟩ | ⟨-, e, he⟩
    · cases hb.symm.trans hb'
      exact hab
    · cases hb.symm.trans he
  constructor
  · intro a ha
    obtain ⟨c, hc, hresult⟩ := h.mem a ha
    obtain ⟨b, hb, hresult'⟩ := h'.of_mem c ((hsame c).mp hc)
    exact ⟨b, hb, hboth hc hresult hresult'⟩
  · intro b hb
    obtain ⟨c, hc, hresult'⟩ := h'.mem b hb
    obtain ⟨a, ha, hresult⟩ := h.of_mem c ((hsame c).mpr hc)
    exact ⟨a, ha, hboth ((hsame c).mpr hc) hresult hresult'⟩

end ResultsOf

namespace ComesTo

theorem pure (a : α) : ComesTo I s (.ok a) (Pure.pure a) :=
  fun m hm => ⟨m, hm, rfl⟩

theorem bind_ok {f : α → Walk β} {a : α} (hx : ComesTo I s (.ok a) x)
    (hf : ComesTo I s result' (f a)) : ComesTo I s result' (x >>= f) := by
  intro m hm
  obtain ⟨m', hm', hrun⟩ := hx m hm
  rw [bind_of_ok hrun]
  exact hf m' hm'

theorem bind_error {f : α → Walk β} {e : Failure} (hx : ComesTo I s (.error e) x) :
    ComesTo I s (.error e) (x >>= f) := by
  intro m hm
  obtain ⟨m', hm', hrun⟩ := hx m hm
  exact ⟨m', hm', bind_of_error hrun⟩

theorem map (hx : ComesTo I s result x) (f : α → β) :
    ComesTo I s (result.map f) (do return f (← x)) := by
  cases result with
  | ok a => exact hx.bind_ok (.pure (f a))
  | error e => exact hx.bind_error

/-- The results of a sequence of computations are those of its parts, if all parts have one. -/
theorem each {f : γ → Walk α} {results : γ → Except Failure α} {l : List γ}
    (h : ∀ c ∈ l, ComesTo I s (results c) (f c)) :
    ∃ result, ComesTo I s result (Walk.each f l) ∧
      (∀ as, result = .ok as → ResultsOf results l as) ∧
      ((∀ c ∈ l, ∃ a, results c = .ok a) → ∃ as, result = .ok as) := by
  induction l with
  | nil =>
      refine ⟨.ok [], .pure [], ?_, fun _ => ⟨[], rfl⟩⟩
      rintro _ ⟨⟩
      exact ⟨nofun, nofun⟩
  | cons c rest ih =>
      obtain ⟨hc, hrest⟩ := List.forall_mem_cons.mp h
      obtain ⟨more, hmore, hresults, hsome⟩ := ih hrest
      cases hresult : results c with
      | error e =>
          rw [hresult] at hc
          refine ⟨.error e, hc.bind_error, nofun, fun hok => ?_⟩
          obtain ⟨a, ha⟩ := hok c List.mem_cons_self
          cases hresult.symm.trans ha
      | ok a =>
          rw [hresult] at hc
          refine ⟨more.map (a :: ·), hc.bind_ok (hmore.map (a :: ·)), fun as has => ?_, fun hok => ?_⟩
          · cases more with
            | error e => cases has
            | ok as' =>
                cases has
                exact (hresults as' rfl).cons hresult
          · obtain ⟨as', rfl⟩ := hsome fun d hd => hok d (List.mem_cons_of_mem _ hd)
            exact ⟨a :: as', rfl⟩

end ComesTo

/-- The results of a sequence of computations correspond to those of other computations that are run
in another order or several times. -/
theorem Pairs.each_of_same {f : γ → Walk α} {g : γ → Walk β} {l l' : List γ}
    (hsame : ∀ c, c ∈ l ↔ c ∈ l') (hf : ∀ c, ∃ result, ComesTo I s result (f c))
    (hg : ∀ c, ∃ result, ComesTo J t result (g c))
    (h : ∀ c ∈ l, Pairs (.results I J excused) s t R (f c) (g c)) :
    Pairs (.results I J excused) s t
      (fun as bs => (∀ a ∈ as, ∃ b ∈ bs, R a b) ∧ ∀ b ∈ bs, ∃ a ∈ as, R a b)
      (Walk.each f l) (Walk.each g l') := by
  intro m n hmem
  choose results hresults using hf
  choose results' hresults' using hg
  have hrated (c : γ) (hc : c ∈ l) : Rated excused R (results c) (results' c) :=
    (hresults c).rated (hresults' c) (h c hc) hmem.1 hmem.2
  obtain ⟨first, hfirst, hof, -⟩ := ComesTo.each (l := l) fun c _ => hresults c
  obtain ⟨second, hsecond, hof', hsome'⟩ := ComesTo.each (l := l') fun c _ => hresults' c
  refine hfirst.pairs hsecond (fun as has => ?_) m n hmem
  have hleft := hof as has
  cases hresult : second with
  | ok bs => exact .inl ⟨bs, rfl, hleft.rated hsame (hof' bs hresult) hrated⟩
  | error e =>
      refine .inr ⟨?_, e, rfl⟩
      by_contra hstrict
      obtain ⟨bs, hbs⟩ := hsome' fun c hc => by
        obtain ⟨a, -, ha⟩ := hleft.of_mem c ((hsame c).mpr hc)
        rcases hrated c ((hsame c).mpr hc) a ha with ⟨b, hb, -⟩ | ⟨hexcused, -⟩
        · exact ⟨b, hb⟩
        · exact absurd hexcused hstrict
      cases hresult.symm.trans hbs

end Walk

end SchemaCheck
