import Mathlib.Data.List.Forall2
import SchemaCheck.Proofs.Walk.Effect

/-!
Total correctness of computations while the ban is off and no references are followed. A computation
`Yields` a property if it returns a result with the property from every calm state and leaves a calm
state. It `Settles` a statement if it yields no violations iff the statement is true.
-/

namespace SchemaCheck

/-- Every pattern in the memory is compiled correctly. -/
def Memory.Compiled (m : Memory) : Prop :=
  ∀ entry ∈ m.patterns, Regex.parse? entry.1 = some entry.2

theorem Memory.learning_compiled (r : Resolver) :
    Memory.Learning r fun m n => m.Compiled → n.Compiled where
  refl _ := id
  trans hlm hmn hl := hmn (hlm hl)
  resolve _ _ _ h := h
  regex _ _ _ hparse h := List.forall_mem_cons.mpr ⟨hparse, h⟩

/-- The frame of a walk without the ban. -/
def Frame.free : Frame :=
  ⟨false, none, false⟩

structure WalkState.Calm (s : WalkState) : Prop where
  frame : s.frame = .free
  compiled : s.memory.Compiled

namespace Walk

variable {α β : Type}

/-- The computation succeeds with a result that satisfies `q`. -/
def Yields (q : α → Prop) (x : Walk α) : Prop :=
  ∀ s, s.Calm → ∃ a t, x s = (.ok a, t) ∧ t.Calm ∧ q a

namespace Yields

variable {q : α → Prop}

theorem pure {a : α} (h : q a) : Yields q (pure a) :=
  fun s hs => ⟨a, s, rfl, hs, h⟩

theorem bind {x : Walk β} {f : β → Walk α} {r : β → Prop} (hx : Yields r x)
    (hf : ∀ b, r b → Yields q (f b)) : Yields q (x >>= f) := by
  intro s hs
  obtain ⟨b, t, hrun, ht, hb⟩ := hx s hs
  rw [bind_of_ok hrun]
  exact hf b hb t ht

theorem mono {q' : α → Prop} {x : Walk α} (hx : Yields q x) (h : ∀ a, q a → q' a) :
    Yields q' x := by
  intro s hs
  obtain ⟨a, t, hrun, ht, ha⟩ := hx s hs
  exact ⟨a, t, hrun, ht, h a ha⟩

theorem map {f : α → β} {p : β → Prop} {x : Walk α} (hx : Yields q x)
    (h : ∀ a, q a → p (f a)) : Yields p (do return f (← x)) :=
  bind hx fun a ha => pure (h a ha)

theorem ofExcept {x : Except SchemaError α} {a : α} (hx : x = .ok a) (h : q a) :
    Yields q (ofExcept x) := by
  subst hx
  exact pure h

/-- The regex of a pattern that compiles, cached or not. -/
theorem regex {pattern : String} {regex : Regex} (h : Regex.parse? pattern = some regex) :
    Yields (· = regex) (Walk.regex pattern) := by
  intro s hs
  rcases hfind : s.memory.patterns.find? (·.1 = pattern) with - | ⟨text, known⟩
  · refine ⟨regex, { s with memory := { s.memory with
      patterns := (pattern, regex) :: s.memory.patterns } }, ?_, ?_, rfl⟩
    · rw [Walk.regex, bind_of_ok (show Walk.read s = (.ok s, s) from rfl)]
      simp only [hfind, h]
      rfl
    · exact ⟨hs.frame, List.forall_mem_cons.mpr ⟨h, hs.compiled⟩⟩
  · have htext : text = pattern := by simpa using List.find?_some hfind
    have hknown := hs.compiled _ (List.mem_of_find?_eq_some hfind)
    refine ⟨known, s, ?_, hs, ?_⟩
    · rw [Walk.regex, bind_of_ok (show Walk.read s = (.ok s, s) from rfl)]
      simp only [hfind]
      rfl
    · rw [htext, h] at hknown
      exact (Option.some.inj hknown).symm

theorem each {f : β → Walk α} {p : β → α → Prop} {l : List β}
    (h : ∀ b ∈ l, Yields (p b) (f b)) : Yields (List.Forall₂ p l) (each f l) := by
  induction l with
  | nil => exact pure .nil
  | cons b rest ih =>
      obtain ⟨hb, hrest⟩ := List.forall_mem_cons.mp h
      exact bind hb fun a ha => bind (ih hrest) fun as has => pure (.cons ha has)

end Yields

/-- The computation yields no violations iff `p` is true. -/
def Settles (p : Prop) (x : Walk (List α)) : Prop :=
  Yields (fun found => found = [] ↔ p) x

namespace Settles

variable {p q : Prop} {x : Walk (List α)}

theorem nil (h : p) : Settles p (return [] : Walk (List α)) :=
  Yields.pure ⟨fun _ => h, fun _ => rfl⟩

theorem singleton (a : α) (h : ¬ p) : Settles p (return [a] : Walk (List α)) :=
  Yields.pure ⟨fun hnil => (nomatch hnil), fun hp => absurd hp h⟩

theorem bind {y : Walk β} {f : β → Walk (List α)} {r : β → Prop} (hy : Yields r y)
    (hf : ∀ b, r b → Settles p (f b)) : Settles p (y >>= f) :=
  Yields.bind hy hf

theorem congr (hx : Settles p x) (h : p ↔ q) : Settles q x :=
  Yields.mono hx fun _ ha => ha.trans h

theorem map (hx : Settles p x) (f : α → β) : Settles p (do return (← x).map f) :=
  Yields.map hx fun as has => by rw [List.map_eq_nil_iff, has]

theorem append {y : Walk (List α)} (hx : Settles p x) (hy : Settles q y) :
    Settles (p ∧ q) (do let as ← x; let bs ← y; return as ++ bs) :=
  Yields.bind hx fun as has => Yields.map hy fun bs hbs => by
    rw [List.append_eq_nil_iff, has, hbs]

theorem collect {f : β → Walk (List α)} {p : β → Prop} {l : List β}
    (h : ∀ b ∈ l, Settles (p b) (f b)) : Settles (∀ b ∈ l, p b) (collect f l) := by
  induction l with
  | nil => exact nil fun _ hb => nomatch hb
  | cons b rest ih =>
      obtain ⟨hb, hrest⟩ := List.forall_mem_cons.mp h
      exact (append hb (ih hrest)).congr List.forall_mem_cons.symm

end Settles

end Walk

end SchemaCheck
