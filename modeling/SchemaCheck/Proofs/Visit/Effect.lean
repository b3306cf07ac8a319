import SchemaCheck.Proofs.Validator.History
import SchemaCheck.Proofs.Visit.Reach
import SchemaCheck.Proofs.Walk.Effect

/-!
The effect of applying a schema on the state: only the memory changes, and only by learning. This is
lifted to every walk by induction on the depth, and from there to all memories of a validator.
-/

namespace SchemaCheck

open Walk

/-- The state for the branches of the node, with the flag that relieves them. -/
def WalkState.relieve (s : WalkState) (relieved : Bool) : WalkState :=
  { s with frame := { s.frame with suppressBranchBan := relieved } }

namespace Setting

variable {R : Memory → Memory → Prop} {t : Setting} {w : Walker}

theorem declaredScope_of_nameless {members : Json.Members} (scopes : ScopeStack)
    (h : (Json.Members.find? "id" members).bind Json.string? = none) :
    declaredScope members scopes = .ok none := by
  rw [declaredScope, h]

theorem applySchema_of_scope {members : Json.Members} {scope : Option Url} {s : WalkState}
    (subject : Subject) (override : Option Bool) (h : declaredScope members s.scopes = .ok scope) :
    t.applySchema w subject (.object members) override s =
      inNode scope (frameOf members override s.frame.ban)
        (t.applyMembers w (effectiveBan members override s.frame.ban) subject members) s := by
  show Walk.bind (Walk.ofExcept (declaredScope members s.scopes)) _ s = _
  rw [h]
  rfl

theorem applySchema_of_error {members : Json.Members} {e : SchemaError} {s : WalkState}
    (subject : Subject) (override : Option Bool) (h : declaredScope members s.scopes = .error e) :
    t.applySchema w subject (.object members) override s = (.error (.schema e), s) := by
  show Walk.bind (Walk.ofExcept (declaredScope members s.scopes)) _ s = _
  rw [h]
  rfl

/-- The members of a node may change the frame, which is restored on leaving the node. -/
theorem moves_applyMembers (ht : t.registry.Preset) (hR : Memory.Learning t.resolver R)
    (hw : w.resolver = t.resolver)
    (hvisit : ∀ subject schema override, Moves R (w.visit subject schema override))
    (effective : Bool) (subject : Subject) (members : Json.Members) (s : WalkState) :
    ∃ m frame, (t.applyMembers w effective subject members s).2 = { s.remember m with frame } ∧
      R s.memory m := by
  have hunions : Moves R
      (Walk.collect (Ban.onBranches w effective subject) (t.unions effective members)) :=
    (program_unions (r := .free subject) (fun _ _ => trivial) effective effective subject).moves
      hR hw hvisit
  have hkeywords (checked : Bool) (unknown : List Violation) : Moves R (do
      let violations ← t.applyKeywords w checked effective subject members
      return unknown ++ violations) :=
    ((free_applyKeywords ht checked effective).map (unknown ++ ·)).moves hR hw hvisit
  obtain ⟨m, hstate, hmem⟩ := hunions s
  unfold applyMembers
  rcases hrun : Walk.collect (Ban.onBranches w effective subject) (t.unions effective members) s
    with ⟨e | unknown, s'⟩
  · obtain rfl : s' = s.remember m := by rw [← hstate, hrun]
    rw [bind_of_error hrun]
    exact ⟨m, s.frame, rfl, hmem⟩
  · obtain rfl : s' = s.remember m := by rw [← hstate, hrun]
    rw [bind_of_ok hrun]
    obtain ⟨n, hstate', hmem'⟩ := hkeywords (!(t.unions effective members).isEmpty) unknown
      ((s.remember m).relieve (!(t.unions effective members).isEmpty))
    exact ⟨n, _, hstate', hR.trans hmem hmem'⟩

theorem moves_applySchema (ht : t.registry.Preset)
    (hR : Memory.Learning t.resolver R) (hw : w.resolver = t.resolver)
    (hvisit : ∀ subject schema override, Moves R (w.visit subject schema override))
    (subject : Subject) (schema : Json) (override : Option Bool) :
    Moves R (t.applySchema w subject schema override) := by
  cases schema with
  | object members =>
      intro s
      cases hscope : declaredScope members s.scopes with
      | error e =>
          rw [applySchema_of_error subject override hscope]
          exact ⟨s.memory, rfl, hR.refl _⟩
      | ok scope =>
          rw [applySchema_of_scope subject override hscope, inNode_apply]
          obtain ⟨m, frame, hstate, hmem⟩ := moves_applyMembers ht hR hw hvisit
            (effectiveBan members override s.frame.ban) subject members
            (s.enter scope (frameOf members override s.frame.ban))
          refine ⟨m, ?_, hmem⟩
          simp only [hstate]
          cases scope <;> rfl
  | _ => exact .of_same hR fun _ => rfl

/-- A walk changes nothing but the memory. -/
theorem moves_visit (ht : t.registry.Preset) (hR : Memory.Learning t.resolver R)
    (depth : Nat) (subject : Subject) (schema : Json) (override : Option Bool) :
    Moves R (t.visit depth subject schema override) := by
  induction depth generalizing subject schema override with
  | zero => exact .of_same hR fun _ => rfl
  | succ depth ih => exact moves_applySchema ht hR rfl ih subject schema override

end Setting

/-- A reflexive and transitive relation that holds across each learning step relates the initial
memory to every memory of the validator. -/
theorem Validator.Recalls.learnt {v : Validator} {draft : Draft} {m : Memory}
    {R : Memory → Memory → Prop} (h : v.Recalls m) (ht : v.setting.registry = .ofDraft draft)
    (hR : Memory.Learning v.setting.resolver R) : R v.memory m := by
  induction h with
  | first => exact hR.refl _
  | later h instance_ config depth ih =>
      rename_i m
      have hpreset : v.setting.registry.Preset := ht ▸ Registry.preset_ofDraft draft
      obtain ⟨n, hstate, hmem⟩ := Setting.moves_visit hpreset hR depth (.root instance_) v.schema
        none (v.start config m)
      refine hR.trans ih ?_
      show R m (v.setting.visit depth (.root instance_) v.schema none (v.start config m)).2.memory
      rw [hstate]
      exact hmem

end SchemaCheck
