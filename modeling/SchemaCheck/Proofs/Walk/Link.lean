import SchemaCheck.Proofs.Walk.Calm

/-!
Two runs side by side. Two computations are linked for a pair of contexts if from any two related
memories they have the same result and related memories again, or a failure that the link excuses. A
context is a state without its memory, and linked runs keep their contexts. Programs are linked if
the operations of their walkers are.
-/

namespace SchemaCheck

/-- The way in which two runs are compared. -/
structure Link where
  memories : Memory → Memory → Prop
  /-- The failures of the first run that excuse the second one. -/
  left : Failure → Prop
  /-- The failures of the second run that excuse the first one. -/
  right : Failure → Prop
  /-- The failures that both runs may have together. -/
  both : Failure → Prop

@[simp] theorem WalkState.remember_memory (s : WalkState) : s.remember s.memory = s := rfl

/-- The regex of a pattern, and the memory afterwards. -/
def Memory.compile (pattern : String) (m : Memory) : Except Failure Regex × Memory :=
  match m.patterns.find? (·.1 = pattern) with
  | some (_, r) => (.ok r, m)
  | none =>
    match Regex.parse? pattern with
    | some r => (.ok r, { m with patterns := (pattern, r) :: m.patterns })
    | none => (.error (.schema (.invalidPattern pattern)), m)

namespace Memory

variable {m : Memory} {pattern : String}

theorem compile_error {e : Failure} (h : (m.compile pattern).1 = .error e) :
    e = .schema (.invalidPattern pattern) := by
  unfold compile at h
  split at h
  · cases h
  · split at h
    · cases h
    · cases h
      rfl

/-- If all patterns in the memory are compiled correctly, the result does not depend on which ones
are cached. -/
theorem compile_of_compiled (hm : m.Compiled) (pattern : String) :
    (m.compile pattern).1 =
      (Regex.parse? pattern).elim (.error (.schema (.invalidPattern pattern))) .ok := by
  unfold Memory.compile
  rcases hfind : m.patterns.find? (·.1 = pattern) with - | ⟨text, regex⟩
  · rw [hfind]
    cases Regex.parse? pattern <;> rfl
  · have htext : text = pattern := by simpa using List.find?_some hfind
    have hparse := hm _ (List.mem_of_find?_eq_some hfind)
    rw [htext] at hparse
    rw [hfind, hparse]
    rfl

theorem compiled_compile (hm : m.Compiled) (pattern : String) :
    (m.compile pattern).2.Compiled := by
  unfold Memory.compile
  split
  next => exact hm
  next =>
    split
    next hparse => exact List.forall_mem_cons.mpr ⟨hparse, hm⟩
    next => exact hm

theorem Learning.compile {r : Resolver} {R : Memory → Memory → Prop} (hR : Learning r R)
    (pattern : String) (m : Memory) : R m (m.compile pattern).2 := by
  unfold Memory.compile
  split
  · exact hR.refl m
  · split
    next regex hparse => exact hR.regex pattern regex m hparse
    next => exact hR.refl m

end Memory

/-- The failure of a pattern that does not compile is plain. -/
theorem Failure.plain_invalidPattern (pattern : String) :
    (Failure.schema (.invalidPattern pattern)).Plain :=
  ⟨nofun, fun ⟨_, h⟩ => nomatch h⟩

namespace Walk

variable {α β : Type} {L : Link} {a b s t : WalkState}

theorem regex_apply (pattern : String) (s : WalkState) :
    regex pattern s =
      ((s.memory.compile pattern).1, s.remember (s.memory.compile pattern).2) := by
  rw [regex, bind_of_ok (show Walk.read s = (.ok s, s) from rfl), Memory.compile]
  cases s.memory.patterns.find? (·.1 = pattern) with
  | some entry => rfl
  | none =>
      dsimp only
      cases Regex.parse? pattern <;> rfl

theorem resolve_apply (w : Walker) (reference : String) (s : WalkState) :
    w.resolve reference s =
      ((((w.resolver.resolve reference s.scopes).run s.memory.cache).1).mapError .schema,
        s.remember { s.memory with
          cache := ((w.resolver.resolve reference s.scopes).run s.memory.cache).2 }) :=
  rfl

theorem resolve_eq_ok {w : Walker} {reference : String} {s : WalkState} {target : Target}
    (h : (w.resolve reference s).1 = .ok target) :
    ((w.resolver.resolve reference s.scopes).run s.memory.cache).1 = .ok target := by
  rw [resolve_apply] at h
  cases hrun : ((w.resolver.resolve reference s.scopes).run s.memory.cache).1 with
  | ok found =>
      rw [hrun] at h
      cases h
      rfl
  | error e =>
      rw [hrun] at h
      cases h

/-- Two runs end in the contexts `s` and `t` with the same result and related memories, unless one
of them is excused. -/
inductive Meets (L : Link) (s t : WalkState) :
    Except Failure α × WalkState → Except Failure α × WalkState → Prop
  | ok {a : α} {m n : Memory} :
      L.memories m n → Meets L s t (.ok a, s.remember m) (.ok a, t.remember n)
  | error {e : Failure} {m n : Memory} :
      L.memories m n → L.both e → Meets L s t (.error e, s.remember m) (.error e, t.remember n)
  | left {e : Failure} {s' : WalkState} {q : Except Failure α × WalkState} :
      L.left e → Meets L s t (.error e, s') q
  | right {e : Failure} {p : Except Failure α × WalkState} {t' : WalkState} :
      L.right e → Meets L s t p (.error e, t')

/-- The results of runs that meet. -/
theorem Meets.result {p q : Except Failure α × WalkState} (h : Meets L s t p q) :
    (p.1 = q.1 ∧ ∀ e, p.1 = .error e → L.both e) ∨ (∃ e, p.1 = .error e ∧ L.left e) ∨
      ∃ e, q.1 = .error e ∧ L.right e := by
  cases h with
  | ok _ => exact .inl ⟨rfl, nofun⟩
  | error _ h => exact .inl ⟨rfl, fun _ heq => Except.error.inj heq ▸ h⟩
  | left h => exact .inr (.inl ⟨_, rfl, h⟩)
  | right h => exact .inr (.inr ⟨_, rfl, h⟩)

/-- Runs that meet still do so if each of them leaves its context for an outer one. -/
theorem Meets.leave {p q : Except Failure α × WalkState} {f g : WalkState → WalkState}
    (h : Meets L s t p q) (hf : ∀ m, f (s.remember m) = a.remember m)
    (hg : ∀ n, g (t.remember n) = b.remember n) : Meets L a b (p.1, f p.2) (q.1, g q.2) := by
  cases h with
  | ok hmem =>
      dsimp only
      rw [hf, hg]
      exact .ok hmem
  | error hmem h =>
      dsimp only
      rw [hf, hg]
      exact .error hmem h
  | left h => exact .left h
  | right h => exact .right h

/-- The two computations meet from any related memories. -/
def Linked (L : Link) (s t : WalkState) (x y : Walk α) : Prop :=
  ∀ m n, L.memories m n → Meets L s t (x (s.remember m)) (y (t.remember n))

namespace Linked

theorem pure (a : α) : Linked L s t (Pure.pure a : Walk α) (Pure.pure a) :=
  fun _ _ hmem => .ok hmem

theorem fail {e : Failure} (h : L.both e) :
    Linked L s t (Walk.fail e : Walk α) (Walk.fail e) :=
  fun _ _ hmem => .error hmem h

/-- For the second parts, the result of the first parts is known. -/
theorem bind {x y : Walk α} {f g : α → Walk β} (hx : Linked L s t x y)
    (hf : ∀ a m n, L.memories m n → (x (s.remember m)).1 = .ok a →
      (y (t.remember n)).1 = .ok a → Linked L s t (f a) (g a)) :
    Linked L s t (x >>= f) (y >>= g) := by
  intro m n hmem
  have hmeets := hx m n hmem
  have hnext := fun a => hf a m n hmem
  rcases hleft : x (s.remember m) with ⟨r, s'⟩
  rcases hright : y (t.remember n) with ⟨r', t'⟩
  rw [hleft, hright] at hmeets hnext
  cases hmeets with
  | ok hmem' =>
      rw [bind_of_ok hleft, bind_of_ok hright]
      exact hnext _ rfl rfl _ _ hmem'
  | error hmem' h =>
      rw [bind_of_error hleft, bind_of_error hright]
      exact .error hmem' h
  | left h =>
      rw [bind_of_error hleft]
      exact .left h
  | right h =>
      rw [bind_of_error hright]
      exact .right h

theorem collect {f g : β → Walk (List α)} {l : List β} (h : ∀ b ∈ l, Linked L s t (f b) (g b)) :
    Linked L s t (Walk.collect f l) (Walk.collect g l) := by
  induction l with
  | nil => exact .pure []
  | cons b rest ih =>
      obtain ⟨hb, hrest⟩ := List.forall_mem_cons.mp h
      exact .bind hb fun _ _ _ _ _ _ => .bind (ih hrest) fun _ _ _ _ _ _ => .pure _

end Linked

/-- Compiling patterns and the failures of keywords keep runs linked. -/
structure Regular (L : Link) : Prop where
  plain : ∀ e : Failure, e.Plain → L.both e
  regex : ∀ pattern s t, Linked L s t (Walk.regex pattern) (Walk.regex pattern)

/-- A link is regular if all patterns in its memories are compiled correctly. -/
theorem regular_of_compiled (hplain : ∀ e : Failure, e.Plain → L.both e)
    (hcompiled : ∀ m n, L.memories m n → m.Compiled ∧ n.Compiled)
    (hcompile : ∀ pattern m n, L.memories m n →
      L.memories (m.compile pattern).2 (n.compile pattern).2) : Regular L where
  plain := hplain
  regex pattern s t := by
    intro m n hmem
    obtain ⟨hm, hn⟩ := hcompiled m n hmem
    have hlearnt := hcompile pattern m n hmem
    rw [regex_apply, regex_apply]
    show Meets L s t ((m.compile pattern).1, s.remember (m.compile pattern).2)
      ((n.compile pattern).1, t.remember (n.compile pattern).2)
    rw [Memory.compile_of_compiled hm, Memory.compile_of_compiled hn]
    cases Regex.parse? pattern with
    | some regex => exact .ok hlearnt
    | none => exact .error hlearnt (hplain _ (Failure.plain_invalidPattern pattern))

end Walk

/-- The operations of two walkers are linked within the reach of a program. -/
structure Walker.Linked (L : Link) (s t : WalkState) (r : Walk.Reach) (w w' : Walker) : Prop where
  resolve : ∀ reference, r.looks reference →
    Walk.Linked L s t (w.resolve reference) (w'.resolve reference)
  descend : ∀ subject schema, r.subject.Near subject → r.schemas schema →
    Walk.Linked L s t (w.descend subject schema) (w'.descend subject schema)
  branch : ∀ schema, r.schemas schema →
    Walk.Linked L s t (w.applyBranch r.subject schema) (w'.applyBranch r.subject schema)
  refer : ∀ reference, r.references reference →
    Walk.Linked L s t (w.refer reference r.subject) (w'.refer reference r.subject)

namespace Walk

variable {α : Type} {L : Link} {s t : WalkState} {w w' : Walker}

/-- A program is linked for two linked walkers, provided that its own failures are. -/
theorem Program.linked_of_raises {r : Reach} {f : Walker → Walk α} (hf : Program r f)
    (hraises : ∀ e, r.Raises e → L.both e)
    (hregex : ∀ pattern, Linked L s t (Walk.regex pattern) (Walk.regex pattern))
    (hw : Walker.Linked L s t r w w') : Linked L s t (f w) (f w') := by
  induction hf with
  | pure a => exact .pure a
  | bind _ _ ihx ihf => exact .bind ihx fun a _ _ _ _ _ => ihf a
  | fail h => exact .fail (hraises _ h)
  | regex pattern => exact hregex pattern
  | resolve hlook => exact hw.resolve _ hlook
  | descend hnear hschema => exact hw.descend _ _ hnear hschema
  | branch hschema => exact hw.branch _ hschema
  | refer href => exact hw.refer _ href

theorem Program.linked {r : Reach} {f : Walker → Walk α} (hf : Program r f) (hL : Regular L)
    (hw : Walker.Linked L s t r w w') : Linked L s t (f w) (f w') :=
  hf.linked_of_raises (fun _ h => hL.plain _ h.plain) (fun pattern => hL.regex pattern s t) hw

/-- Applying a branch is a visit under the override of the frame. -/
theorem linked_branch {subject : Subject} {schema : Json}
    (hsuppress : s.frame.suppressBranchBan = t.frame.suppressBranchBan)
    (h : Linked L s t
      (w.visit subject schema (if s.frame.suppressBranchBan then some false else none))
      (w'.visit subject schema (if s.frame.suppressBranchBan then some false else none))) :
    Linked L s t (w.applyBranch subject schema) (w'.applyBranch subject schema) := by
  intro m n hmem
  show Meets L s t
    (w.visit subject schema (if s.frame.suppressBranchBan then some false else none) (s.remember m))
    (w'.visit subject schema (if t.frame.suppressBranchBan then some false else none)
      (t.remember n))
  rw [← hsuppress]
  exact h m n hmem

/-- If neither walker finds a cycle, following a reference is a visit of its target. -/
theorem linked_follow {reference : String} {target : Target} {subject : Subject}
    (hs : ¬ (w.findsCycles ∧ s.following.contains (target.url.write, subject.place)))
    (ht : ¬ (w'.findsCycles ∧ t.following.contains (target.url.write, subject.place)))
    (h : Linked L (s.jump target subject) (t.jump target subject)
      (w.visit subject target.schema s.frame.refOverride)
      (w'.visit subject target.schema t.frame.refOverride)) :
    Linked L s t (w.follow reference target subject) (w'.follow reference target subject) := by
  intro m n hmem
  rw [follow_apply, follow_apply]
  rw [if_neg (show ¬ (w.findsCycles ∧ (s.remember m).following.contains _) from hs),
    if_neg (show ¬ (w'.findsCycles ∧ (t.remember n).following.contains _) from ht)]
  exact (h m n hmem).leave
    (f := fun s => { s with scopes := s.scopes.pop.2, following := s.following.tail })
    (g := fun s => { s with scopes := s.scopes.pop.2, following := s.following.tail })
    (fun _ => rfl) fun _ => rfl

/-- Two walkers with the check for cycles find the same ones. -/
theorem linked_follow_of_findsCycles {reference : String} {target : Target} {subject : Subject}
    (hw : w.findsCycles = true) (hw' : w'.findsCycles = true) (hboth : ∀ e, L.both (.schema e))
    (h : (target.url.write, subject.place) ∉ s.following →
      Linked L (s.jump target subject) (s.jump target subject)
        (w.visit subject target.schema s.frame.refOverride)
        (w'.visit subject target.schema s.frame.refOverride)) :
    Linked L s s (w.follow reference target subject) (w'.follow reference target subject) := by
  by_cases hfollowed : s.following.contains (target.url.write, subject.place)
  · intro m n hmem
    rw [follow_apply, follow_apply, if_pos ⟨hw, hfollowed⟩, if_pos ⟨hw', hfollowed⟩]
    exact .error hmem (hboth _)
  · exact linked_follow (fun hcycle => hfollowed hcycle.2) (fun hcycle => hfollowed hcycle.2)
      (h (by simpa using hfollowed))

end Walk

/-- Two runs from the same memory, for which `I` holds, with the same outcome and the same final
memory. -/
def Link.same (I : Memory → Prop) (both : Failure → Prop) : Link where
  memories m n := m = n ∧ I m
  left _ := False
  right _ := False
  both := both

namespace Walk

variable {α : Type} {s t : WalkState} {w w' : Walker}
variable {I : Memory → Prop} {both : Failure → Prop}

theorem linked_regex_same {pattern : String} (hI : ∀ m, I m → I (m.compile pattern).2)
    (hboth : both (.schema (.invalidPattern pattern))) :
    Linked (.same I both) s t (Walk.regex pattern) (Walk.regex pattern) := by
  rintro m _ ⟨rfl, hm⟩
  rw [regex_apply, regex_apply]
  show Meets (.same I both) s t ((m.compile pattern).1, s.remember (m.compile pattern).2)
    ((m.compile pattern).1, t.remember (m.compile pattern).2)
  cases hcompile : (m.compile pattern).1 with
  | ok regex => exact .ok ⟨rfl, hI m hm⟩
  | error e =>
      rw [Memory.compile_error hcompile]
      exact .error ⟨rfl, hI m hm⟩ hboth

theorem regular_same (hI : ∀ pattern m, I m → I (m.compile pattern).2)
    (hboth : ∀ e : Failure, e.Plain → both e) : Regular (.same I both) where
  plain := hboth
  regex pattern _ _ :=
    linked_regex_same (hI pattern) (hboth _ (Failure.plain_invalidPattern pattern))

/-- Resolvers that agree on a reference are linked for it. -/
theorem linked_resolve_same {reference : String}
    (hI : ∀ m, I m → I { m with cache := ((w.resolver.resolve reference s.scopes).run m.cache).2 })
    (hsame : ∀ m, I m → (w'.resolver.resolve reference s.scopes).run m.cache =
      (w.resolver.resolve reference s.scopes).run m.cache)
    (hboth : ∀ e, both (.schema e)) :
    Linked (.same I both) s s (w.resolve reference) (w'.resolve reference) := by
  rintro m _ ⟨rfl, hm⟩
  have hlearnt := hI m hm
  rw [resolve_apply, resolve_apply]
  show Meets (.same I both) s s
    (((w.resolver.resolve reference s.scopes).run m.cache).1.mapError .schema, s.remember _)
    (((w'.resolver.resolve reference s.scopes).run m.cache).1.mapError .schema, s.remember
      { m with cache := ((w'.resolver.resolve reference s.scopes).run m.cache).2 })
  rw [hsame m hm]
  cases ((w.resolver.resolve reference s.scopes).run m.cache).1 with
  | ok target => exact .ok ⟨rfl, hlearnt⟩
  | error e => exact .error ⟨rfl, hlearnt⟩ (hboth e)

theorem Meets.of_same {p q : Except Failure α × WalkState} (h : Meets (.same I both) s t p q) :
    p.1 = q.1 ∧ ∀ e, p.1 = .error e → both e := by
  rcases h.result with hsame | ⟨_, _, hleft⟩ | ⟨_, _, hright⟩
  · exact hsame
  · exact hleft.elim
  · exact hright.elim

/-- Runs that meet in one context from the same memory are equal. -/
theorem Meets.eq_of_same {p q : Except Failure α × WalkState} (h : Meets (.same I both) s s p q) :
    p = q := by
  cases h with
  | ok hmem => rw [hmem.1]
  | error hmem _ => rw [hmem.1]
  | left h => exact h.elim
  | right h => exact h.elim

theorem Meets.memory_of_same {p q : Except Failure α × WalkState}
    (h : Meets (.same I both) s t p q) : p.2.memory = q.2.memory ∧ I p.2.memory := by
  cases h with
  | ok hmem => exact hmem
  | error hmem _ => exact hmem
  | left h => exact h.elim
  | right h => exact h.elim

end Walk

end SchemaCheck
