import SchemaCheck.Proofs.Walk.Program

/-!
The effect of a walk on its state. In every outcome the scopes, the frame and the open references
are the initial ones, and only the memory changes. The relation between the memories before and
after is a parameter: any relation that holds across one resolution and across one compilation holds
across a whole walk.
-/

namespace SchemaCheck

/-- The state with another memory. -/
def WalkState.remember (s : WalkState) (m : Memory) : WalkState :=
  { s with memory := m }

/-- The state inside a node. -/
def WalkState.enter (s : WalkState) (scope : Option Url) (frame : Frame) : WalkState :=
  { s with
    scopes := scope.elim s.scopes s.scopes.push
    frame }

/-- The state inside the target of a reference. -/
def WalkState.jump (s : WalkState) (target : Target) (subject : Subject) : WalkState :=
  { s with
    scopes := s.scopes.push target.url
    following := (target.url.write, subject.place) :: s.following }

/-- A relation between the memories before and after, which holds across each resolution and
compilation. -/
structure Memory.Learning (r : Resolver) (R : Memory → Memory → Prop) : Prop where
  refl : ∀ m, R m m
  trans : ∀ {l m n}, R l m → R m n → R l n
  resolve : ∀ reference scopes m,
    R m { m with cache := ((r.resolve reference scopes).run m.cache).2 }
  regex : ∀ pattern regex m, Regex.parse? pattern = some regex →
    R m { m with patterns := (pattern, regex) :: m.patterns }

namespace Walk

variable {R : Memory → Memory → Prop} {α β : Type}

theorem bind_of_ok {x : Walk α} {f : α → Walk β} {s t : WalkState} {a : α}
    (h : x s = (.ok a, t)) : (x >>= f) s = f a t := by
  show Walk.bind x f s = f a t
  simp only [Walk.bind, h]

theorem bind_of_error {x : Walk α} {f : α → Walk β} {s t : WalkState} {e : Failure}
    (h : x s = (.error e, t)) : (x >>= f) s = (.error e, t) := by
  show Walk.bind x f s = (.error e, t)
  simp only [Walk.bind, h]

/-- If the second part cannot fail, the result of the first part determines that of both. -/
theorem bind_fst {x : Walk β} {f : β → Walk α} (g : β → α)
    (h : ∀ b t, (f b t).1 = .ok (g b)) (s : WalkState) : ((x >>= f) s).1 = (x s).1.map g := by
  rcases hx : x s with ⟨e | b, t⟩
  · rw [bind_of_error hx]
    rfl
  · rw [bind_of_ok hx]
    exact h b t

theorem bind_ite_fst (x : Walk β) (c : β → Prop) [DecidablePred c] (a d : β → α)
    (s : WalkState) :
    ((x >>= fun b => if c b then Pure.pure (a b) else Pure.pure (d b)) s).1 =
      (x s).1.map fun b => if c b then a b else d b := by
  refine bind_fst _ (fun b t => ?_) s
  split
  next => rfl
  next => rfl

/-- A node runs inside its scope and its frame, and both are left again. -/
theorem inNode_apply (scope : Option Url) (frame : Frame) (x : Walk α) (s : WalkState) :
    inNode scope frame x s =
      ((x (s.enter scope frame)).1,
        { (x (s.enter scope frame)).2 with
          scopes := scope.elim id (fun _ t => t.pop.2) (x (s.enter scope frame)).2.scopes
          frame := s.frame }) := by
  cases scope <;> rfl

/-- The target of a reference runs in its own scope with its key among the open ones, unless the key
is open already. -/
theorem follow_apply (w : Walker) (reference : String) (target : Target) (subject : Subject)
    (s : WalkState) :
    w.follow reference target subject s =
      if w.findsCycles ∧ s.following.contains (target.url.write, subject.place) then
        (.error (.schema (.invalidReference reference "reference cycle")), s)
      else
        let inside := w.visit subject target.schema s.frame.refOverride (s.jump target subject)
        (inside.1,
          { inside.2 with
            scopes := inside.2.scopes.pop.2
            following := inside.2.following.tail }) := by
  show (if _ then _ else _ : Walk (List Violation)) s = _
  split
  · rfl
  · rfl

theorem follow_of_circle {w : Walker} {reference : String} {target : Target} {subject : Subject}
    {s : WalkState} (h : w.findsCycles ∧ s.following.contains (target.url.write, subject.place)) :
    w.follow reference target subject s =
      (.error (.schema (.invalidReference reference "reference cycle")), s) := by
  rw [follow_apply, if_pos h]

/-- Only the memory changes, and the memories before and after are related by `R`. -/
def Moves (R : Memory → Memory → Prop) (x : Walk α) : Prop :=
  ∀ s, ∃ m, (x s).2 = s.remember m ∧ R s.memory m

namespace Moves

variable {r : Resolver} {w : Walker}

theorem of_same (hR : Memory.Learning r R) {x : Walk α} (h : ∀ s, (x s).2 = s) : Moves R x :=
  fun s => ⟨s.memory, h s, hR.refl _⟩

theorem bind (hR : Memory.Learning r R) {x : Walk α} {f : α → Walk β} (hx : Moves R x)
    (hf : ∀ a, Moves R (f a)) : Moves R (x >>= f) := by
  intro s
  obtain ⟨m, hstate, hmem⟩ := hx s
  rcases hrun : x s with ⟨a | a, t⟩
  · obtain rfl : t = s.remember m := by rw [← hstate, hrun]
    rw [bind_of_error hrun]
    exact ⟨m, rfl, hmem⟩
  · obtain rfl : t = s.remember m := by rw [← hstate, hrun]
    obtain ⟨n, hstate', hmem'⟩ := hf a (s.remember m)
    rw [bind_of_ok hrun]
    exact ⟨n, hstate', hR.trans hmem hmem'⟩

theorem regex (hR : Memory.Learning r R) (pattern : String) : Moves R (regex pattern) := by
  refine bind hR (of_same hR fun _ => rfl) fun s => ?_
  cases s.memory.patterns.find? (·.1 = pattern) with
  | some entry => exact of_same hR fun _ => rfl
  | none =>
      dsimp only
      cases hparse : Regex.parse? pattern with
      | none => exact of_same hR fun _ => rfl
      | some regex => exact fun t => ⟨_, rfl, hR.regex pattern regex t.memory hparse⟩

theorem resolve (hR : Memory.Learning r R) (hw : w.resolver = r) (reference : String) :
    Moves R (w.resolve reference) := by
  subst hw
  exact fun s => ⟨_, rfl, hR.resolve reference s.scopes s.memory⟩

theorem follow (hR : Memory.Learning r R)
    (hvisit : ∀ subject schema override, Moves R (w.visit subject schema override))
    (reference : String) (target : Target) (subject : Subject) :
    Moves R (w.follow reference target subject) := by
  intro s
  rw [follow_apply]
  split
  · exact ⟨s.memory, rfl, hR.refl _⟩
  · obtain ⟨m, hstate, hmem⟩ :=
      hvisit subject target.schema s.frame.refOverride (s.jump target subject)
    refine ⟨m, ?_, hmem⟩
    simp only [hstate]
    rfl

end Moves

namespace Program

/-- A program changes the memory as the operations of its walker do. -/
theorem moves {r : Resolver} {reach : Reach} {f : Walker → Walk α} (hf : Program reach f)
    (hR : Memory.Learning r R) {w : Walker} (hw : w.resolver = r)
    (hvisit : ∀ subject schema override, Moves R (w.visit subject schema override)) :
    Moves R (f w) := by
  induction hf with
  | pure a => exact .of_same hR fun _ => rfl
  | bind _ _ ihx ihf => exact .bind hR ihx ihf
  | fail _ => exact .of_same hR fun _ => rfl
  | regex pattern => exact .regex hR pattern
  | resolve _ => exact .resolve hR hw _
  | descend _ _ => exact hvisit _ _ _
  | branch _ => exact .bind hR (.of_same hR fun _ => rfl) fun _ => hvisit _ _ _
  | refer _ =>
      exact .bind hR (.resolve hR hw _) fun target => .follow hR hvisit _ target _

end Program

end Walk

end SchemaCheck
