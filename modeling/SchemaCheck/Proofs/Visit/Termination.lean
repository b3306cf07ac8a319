import SchemaCheck.Proofs.Resolver.Horizon
import SchemaCheck.Proofs.Visit.Link

/-!
Termination of walks. Each nested application of a schema decreases a measure: it is for a part of
the subject, or follows a reference that is not open for the subject, or applies a schema of smaller
rank. There are finitely many references to follow, since their targets are within the horizon. A
walk with a depth above the measure does not reach the limit, and its outcome is that of every
deeper walk.
-/

namespace SchemaCheck

open Walk

namespace Horizon

variable {h : Horizon} {s : WalkState} {subject : Subject} {schema sub : Json}

/-- The number of targets that are not open for the value at a place. -/
def room (h : Horizon) (s : WalkState) (place : Location) : Nat :=
  (h.targets.filter fun u => !s.following.contains (u, place)).length

/-- The measure that decreases with every nested application of a schema. -/
noncomputable def budget (h : Horizon) (s : WalkState) (subject : Subject) (schema : Json) : Nat :=
  (sizeOf subject.value * (h.targets.length + 1) + h.room s subject.place) * (h.rank + 1) +
    schema.rank

theorem room_le (h : Horizon) (s : WalkState) (place : Location) :
    h.room s place ≤ h.targets.length :=
  List.length_filter_le _ _

theorem mul_add_lt {a b k r q : Nat} (hab : a < b) (hr : r < k) : a * k + r < b * k + q :=
  calc
    a * k + r < a * k + k := Nat.add_lt_add_left hr _
    _ = (a + 1) * k := (Nat.succ_mul a k).symm
    _ ≤ b * k := Nat.mul_le_mul_right k hab
    _ ≤ b * k + q := Nat.le_add_right _ _

/-- A schema of smaller rank, applied to the same value. -/
theorem budget_lt_of_rank {s' : WalkState} (hfollowing : s'.following = s.following)
    (hrank : sub.rank < schema.rank) :
    h.budget s' subject sub < h.budget s subject schema := by
  unfold budget room
  rw [hfollowing]
  exact Nat.add_lt_add_left hrank _

/-- Any schema, applied to a part of the subject. -/
theorem budget_lt_of_value {s' : WalkState} {inner : Subject}
    (hvalue : sizeOf inner.value < sizeOf subject.value) (hsub : h.Known sub) :
    h.budget s' inner sub < h.budget s subject schema := by
  have hroom : h.room s' inner.place < h.targets.length + 1 :=
    Nat.lt_succ_of_le (h.room_le s' inner.place)
  exact mul_add_lt (mul_add_lt hvalue hroom) (Nat.lt_succ_of_le hsub.rank_le)

/-- A target that is not open for the subject. -/
theorem budget_lt_of_target {target : Target} (hmem : target.url.write ∈ h.targets)
    (hnew : (target.url.write, subject.place) ∉ s.following) (htarget : h.Known target.schema) :
    h.budget (s.jump target subject) subject target.schema < h.budget s subject schema := by
  refine mul_add_lt (Nat.add_lt_add_left ?_ _) (Nat.lt_succ_of_le htarget.rank_le)
  -- The targets left to follow afterwards are those left before, without this one.
  have hfilter : (h.targets.filter fun u =>
      !(s.jump target subject).following.contains (u, subject.place)) =
      (h.targets.filter fun u => !s.following.contains (u, subject.place)).filter
        fun u => !(u == target.url.write) := by
    rw [List.filter_filter]
    refine List.filter_congr fun u _ => ?_
    simp [WalkState.jump, Bool.beq_eq_decide_eq]
  unfold room
  rw [hfilter, List.length_filter_lt_length_iff_exists]
  refine ⟨target.url.write, List.mem_filter.mpr ⟨hmem, ?_⟩, ?_⟩
  · simpa using hnew
  · simp

theorem sizeOf_lt_of_near {inner : Subject} (hnear : subject.Near inner) :
    inner = subject ∨ sizeOf inner.value < sizeOf subject.value := by
  cases hnear with
  | here => exact .inl rfl
  | @member key value members hvalue hmem =>
      refine .inr ?_
      have hmember := List.sizeOf_lt_of_mem hmem
      rw [Prod.mk.sizeOf_spec] at hmember
      rw [hvalue, Json.object.sizeOf_spec]
      show sizeOf value < _
      omega
  | @item i value items hvalue hget =>
      refine .inr ?_
      have hitem := List.sizeOf_lt_of_mem (List.mem_of_getElem? hget)
      rw [hvalue, Json.array.sizeOf_spec]
      show sizeOf value < _
      omega

theorem budget_lt_of_near {s' : WalkState} {inner : Subject}
    (hfollowing : s'.following = s.following) (hnear : subject.Near inner) (hsub : h.Known sub)
    (hrank : sub.rank < schema.rank) : h.budget s' inner sub < h.budget s subject schema := by
  rcases sizeOf_lt_of_near hnear with rfl | hvalue
  · exact budget_lt_of_rank hfollowing hrank
  · exact budget_lt_of_value hvalue hsub

/-- Two runs from the same memory, within the horizon, neither of which reaches its limit. -/
def link (h : Horizon) : Link :=
  .same (fun m => m.cache.Within h) (· ≠ .tooDeep)

end Horizon

namespace Setting

variable {h : Horizon} {t : Setting} {draft : Draft}

/-- Walks with depths above the budget have the same outcome and do not reach their limits. -/
theorem linked_visit_of_budget (ht : t.registry = .ofDraft draft) (hcycles : t.findsCycles = true)
    (hr : t.resolver.Confined h) {depth depth' : Nat} {s : WalkState} {subject : Subject}
    {schema : Json} (override : Option Bool) (hknown : h.Known schema)
    (hscope : s.scopes.current.blanks ≤ h.blanks) (hdepth : h.budget s subject schema < depth)
    (hdepth' : h.budget s subject schema < depth') :
    Linked h.link s s (t.visit depth subject schema override)
      (t.visit depth' subject schema override) := by
  have hlearning := Memory.learning_within hr
  induction depth generalizing depth' s subject schema override with
  | zero => exact absurd hdepth (Nat.not_lt_zero _)
  | succ depth ih =>
      obtain ⟨depth', rfl⟩ : ∃ k, depth' = k + 1 := ⟨depth' - 1, by omega⟩
      refine linked_applySchema_of_alike ht hlearning.compile (fun _ => nofun)
        (fun _ _ _ h => h.plain.1) hcycles hcycles ?_
      rintro members rfl own relieved hown
      -- The scope inside the node is within the horizon, and so is everything reached from it.
      have hinner : (s.within members override own relieved).scopes.current.blanks ≤ h.blanks := by
        rw [WalkState.current_within]
        cases own with
        | none => exact hscope
        | some u =>
            obtain ⟨id, hid, hjoin⟩ := declaredScope_eq_some hown
            exact Horizon.blanks_join_le hscope (hknown.mem_texts hid) hjoin
      exact {
        resolve := fun reference m _ => hlearning.resolve reference _ m
        agree := fun _ _ _ _ => rfl
        visit := fun inner sub override' hnear hinside => by
          have hsub : h.Known sub := hknown.inside hinside
          obtain ⟨-, entry, hmem, -, happlied⟩ := hinside
          have hrank := Keyword.rank_lt_of_applied hmem happlied
          have hlt : h.budget (s.within members override own relieved) inner sub <
              h.budget s subject (.object members) := Horizon.budget_lt_of_near rfl hnear hsub hrank
          exact ih override' hsub hinner (by omega) (by omega)
        follow := fun reference target m hreference hm hresolved hnew => by
          obtain ⟨hjoin, hkey, hpart⟩ :=
            (t.resolver.within_resolve hr hm reference _).2 target hresolved
          have htext := hknown.mem_texts hreference
          have hlt : h.budget ((s.within members override own relieved).jump target subject) subject
              target.schema < h.budget s subject (.object members) :=
            Horizon.budget_lt_of_target (Horizon.mem_targets hinner htext hjoin hkey) hnew
              (.inl hpart)
          exact ih _ (.inl hpart) (Horizon.blanks_join_le hinner htext hjoin) (by omega)
            (by omega) }

end Setting

end SchemaCheck
