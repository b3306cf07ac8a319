import SchemaCheck.Proofs.Visit.Guard
import SchemaCheck.Proofs.Visit.Termination

/-!
Every validation terminates, also with cyclic references, and no reference is followed again within
itself for the same value.
-/

namespace SchemaCheck

open Walk

variable {draft : Draft}

namespace Setting

variable {t : Setting}

/-- The walk that fails with `e` before it applies a schema in a state without the property `p`. If
its outcome is that of `visit` for every `e`, a walk applies schemas only in states with the
property. -/
def visitWhile (t : Setting) (p : WalkState → Prop) [DecidablePred p] (e : Failure) :
    Nat → Subject → Json → Option Bool → Walk (List Violation)
  | 0, _, _, _ => Walk.fail .tooDeep
  | depth + 1, subject, schema, override => fun s =>
    if p s then
      let w : Walker :=
        { resolver := t.resolver, findsCycles := t.findsCycles, visit := t.visitWhile p e depth }
      t.applySchema w subject schema override s
    else (.error e, s)

/-- No two open references have the same target and the same value. -/
abbrev FollowsOnce (s : WalkState) : Prop :=
  s.following.Nodup

theorem visitWhile_eq (p : WalkState → Prop) [DecidablePred p] (e : Failure) (depth : Nat) :
    t.visitWhile p e depth = t.visitWhere (fun s _ => p s) e depth := by
  induction depth with
  | zero => rfl
  | succ depth ih =>
      funext subject schema override s
      simp only [visitWhile, visitWhere, ih]

/-- A reference is opened only if its target and value are not open already. -/
theorem passes_followsOnce : t.Passes (fun _ => True) fun s _ => FollowsOnce s where
  remember _ _ _ := id
  compile _ _ _ := trivial
  inside _ _ _ _ _ hs _ :=
    { resolve := fun _ _ _ _ => trivial
      schema := fun _ _ => hs
      target := fun _ _ _ _ _ _ _ hnew => List.nodup_cons.mpr ⟨hnew, hs⟩ }

theorem linked_visitWhile (ht : t.registry = .ofDraft draft) (hcycles : t.findsCycles = true)
    (e : Failure) (depth : Nat) {s : WalkState} (hs : FollowsOnce s) (subject : Subject)
    (schema : Json) (override : Option Bool) :
    Linked (.same (fun _ => True) fun _ => True) s s (t.visit depth subject schema override)
      (t.visitWhile FollowsOnce e depth subject schema override) := by
  rw [visitWhile_eq]
  exact passes_followsOnce.linked ht hcycles e depth hs subject override

end Setting

/-- The memory of a validator is within its horizon. -/
theorem Validator.Recalls.within {v : Validator} (ht : v.setting.registry = .ofDraft draft)
    {urls : List Url} (hfetcher : ∀ u bytes, v.setting.resolver.fetcher u = .ok bytes → u ∈ urls)
    {memory : Memory} (h : v.Recalls memory) :
    memory.cache.Within (v.setting.resolver.horizon v.schema urls) :=
  h.learnt ht (Memory.learning_within (v.setting.resolver.confined_horizon hfetcher v.schema))
    (v.setting.resolver.within_seed v.schema urls)

/-- From some depth on, the depth limit is not reached. -/
theorem Options.exists_depth (o : Options) (hvocabulary : o.registry = none) (urls : List Url)
    (hfetcher : ∀ u bytes, o.fetcher u = .ok bytes → u ∈ urls) (schema : Json) (base : Url)
    (instance_ : Json) :
    let v := o.assemble schema base
    ∃ n, ∀ config memory, v.Recalls memory → ∀ depth, n ≤ depth →
      ((v.withDepth depth).violations instance_ config).outcome memory ≠ .error .tooDeep ∧
        ((v.withDepth depth).violations instance_ config).outcome memory =
          ((v.withDepth n).violations instance_ config).outcome memory := by
  intro v
  have ht : v.setting.registry = .ofDraft o.draft := by
    simp [v, assemble, hvocabulary]
  let h := v.setting.resolver.horizon schema urls
  have hr : v.setting.resolver.Confined h := v.setting.resolver.confined_horizon hfetcher schema
  refine ⟨h.budget (v.start .standard v.memory) (.root instance_) schema + 1,
    fun config memory hmemory depth hdepth => ?_⟩
  have hwithin : memory.cache.Within h := hmemory.within ht hfetcher
  have hscope : (v.start config memory).scopes.current.blanks ≤ h.blanks := Nat.le_add_right ..
  have hbudget : h.budget (v.start config memory) (.root instance_) schema < depth := hdepth
  have hlinked := Setting.linked_visit_of_budget ht rfl hr none
    (.of_document List.mem_cons_self) hscope hbudget (Nat.lt_succ_self _)
  obtain ⟨hsame, hboth⟩ := (hlinked memory memory ⟨rfl, hwithin⟩).of_same
  exact ⟨fun herror => hboth _ herror rfl, hsame⟩

/-- Every validation by a validator of either draft terminates, for every instance and after any
earlier validations, if its documents can be loaded at finitely many locators only: there is a depth
from which on the depth limit is never reached. Also, a walk of any depth never has two open
references with the same target and the same value. -/
theorem Options.violations_terminates (o : Options) (hvocabulary : o.registry = none)
    (urls : List Url) (hfetcher : ∀ u bytes, o.fetcher u = .ok bytes → u ∈ urls) (schema : Json)
    (base : Url) (instance_ : Json) :
    let v := o.assemble schema base
    (∃ n, ∀ config memory, v.Recalls memory → ∀ depth, n ≤ depth →
      ((v.withDepth depth).violations instance_ config).outcome memory ≠ .error .tooDeep ∧
        ((v.withDepth depth).violations instance_ config).outcome memory =
          ((v.withDepth n).violations instance_ config).outcome memory) ∧
      ∀ config memory depth e,
        (v.setting.visitWhile Setting.FollowsOnce e depth (.root instance_) schema none
          (v.start config memory)).1 =
        ((v.withDepth depth).violations instance_ config).outcome memory := by
  intro v
  have ht : v.setting.registry = .ofDraft o.draft := by
    simp [v, assemble, hvocabulary]
  refine ⟨o.exists_depth hvocabulary urls hfetcher schema base instance_,
    fun config memory depth e => ?_⟩
  have hlinked := Setting.linked_visitWhile ht rfl e depth (s := v.start config memory)
    List.nodup_nil (.root instance_) schema none
  exact (hlinked memory memory ⟨rfl, trivial⟩).of_same.1.symm

/-- A schema that disallows itself. The schemas that are built for `disallow` lead back to it until
an open reference is met again. -/
theorem Options.violations_terminates_disallow :
    let o : Options := { standard .offline with draft := .draft3 }
    let schema : Json := .object [("disallow", .array [.object [("$ref", .string "#")]])]
    let v := o.assemble schema Validator.defaultBase
    let circle : Except Failure Nat :=
      .error (.schema (.invalidReference "#" "reference cycle"))
    (((v.withDepth 9).violations .null .permissive).outcome v.memory).map List.length = circle ∧
      (∃ n, ∀ depth, n ≤ depth →
        ((v.withDepth depth).violations .null .permissive).outcome v.memory ≠ .error .tooDeep) ∧
      ∀ e, (v.setting.visitWhile Setting.FollowsOnce e 9 (.root .null) schema none
        (v.start .permissive v.memory)).1.map List.length = circle := by
  intro o schema v circle
  have hrun : (((v.withDepth 9).violations .null .permissive).outcome v.memory).map List.length =
      circle := by decide +kernel
  obtain ⟨⟨n, hn⟩, honce⟩ := o.violations_terminates rfl [] (fun _ _ h => nomatch h) schema
    Validator.defaultBase .null
  refine ⟨hrun, ⟨n, fun depth hdepth => (hn .permissive v.memory .first depth hdepth).1⟩, ?_⟩
  exact fun e => (congrArg _ (honce .permissive v.memory 9 e)).trans hrun

end SchemaCheck
