import Mathlib.Data.Nat.Find
import SchemaCheck.Proofs.Json.Ordered
import SchemaCheck.Proofs.Visit.Reachable

/-!
Cyclic references. A walk with the check for cycles is compared with one without it. Both do the
same until the first one reports a cycle, and in that case the second one reaches its depth limit.
This is because the target of a reference and the value that it is followed for determine the
behaviour of the walk without the check, if the ban is off. If this walk ended after an open
reference is met again, at some least depth, it would have met the same target and value at a
smaller depth.
-/

namespace SchemaCheck

open Walk

/-- The subject is the value at its location in the instance. -/
structure Subject.LiesIn (whole : Json) (s : Subject) : Prop where
  place : s.place.follow? whole = some s.value
  ordered : s.value.Ordered

theorem Subject.LiesIn.near {whole : Json} {s inner : Subject} (h : s.LiesIn whole)
    (hnear : s.Near inner) : inner.LiesIn whole := by
  refine ⟨?_, h.ordered.part hnear.part⟩
  cases hnear with
  | here => exact h.place
  | @member key value object hvalue hmem =>
      have hordered := h.ordered
      rw [hvalue] at hordered
      show Location.follow? (s.place ++ [.key key]) whole = some value
      rw [Location.follow?_append, h.place, hvalue, Option.bind_some, Location.follow?_cons,
        hordered.into?_key hmem]
      rfl
  | @item i value items hvalue hget =>
      show Location.follow? (s.place ++ [.index i]) whole = some value
      have hinto : (Step.index i).into? (.array items) = some value := hget
      rw [Location.follow?_append, h.place, hvalue, Option.bind_some, Location.follow?_cons, hinto]
      rfl

/-- A subject is determined by its location. -/
theorem Subject.LiesIn.eq_of_place {whole : Json} {s other : Subject} (h : s.LiesIn whole)
    (hother : other.LiesIn whole) (hplace : s.place = other.place) : s = other := by
  have hvalue : some s.value = some other.value := by
    rw [← h.place, ← hother.place, hplace]
  cases s
  cases other
  cases hplace
  cases hvalue
  rfl

/-- Two runs, the first of which may reach its depth limit where the second one does not. -/
def Link.deeper (r : Resolver) (root : Json) : Link :=
  .sound r root (· = .tooDeep) (fun _ => False) fun _ => True

/-- Two runs, the first of which may report a cycle. -/
def Link.upToCircle (r : Resolver) (root : Json) : Link :=
  .sound r root Failure.ReportsCycle (fun _ => False) fun _ => True

/-- Two runs, either of which may reach its depth limit, and which do not both report a cycle. -/
def Link.endless (r : Resolver) (root : Json) : Link :=
  .sound r root (· = .tooDeep) (· = .tooDeep) (¬ ·.ReportsCycle)

namespace Walk

variable {α : Type} {L : Link} {s t : WalkState} {w w' : Walker} {a b : WalkState}
variable {reference : String} {target : Target} {subject : Subject}

theorem Meets.of_right {p q : Except Failure α × WalkState} {e : Failure} (hq : q.1 = .error e)
    (h : L.right e) : Meets L s t p q := by
  rcases q with ⟨r, t'⟩
  cases hq
  exact .right h

variable {r : Resolver} {root : Json} {x y z : Walk α}

/-- The second run can have a greater depth. -/
theorem Linked.deeper (h : Linked (.endless r root) a b x y)
    (hdeeper : Linked (.deeper r root) b b y z)
    (hends : ∀ n, n.Sound r root → (y (b.remember n)).1 ≠ .error .tooDeep) :
    Linked (.endless r root) a b x z := by
  rintro m n ⟨hm, hn⟩
  have hfirst := h m n ⟨hm, hn⟩
  have hsecond := hdeeper n n ⟨hn, hn⟩
  have hend := hends n hn
  revert hfirst hsecond hend
  generalize x (a.remember m) = p, y (b.remember n) = q, z (b.remember n) = q'
  intro hfirst hsecond hend
  -- The middle run does not reach its limit, so that both others have its outcome.
  cases hfirst with
  | ok hmem =>
      cases hsecond with
      | ok hmem' => exact .ok ⟨hmem.1, hmem'.2⟩
      | right h => exact h.elim
  | error hmem hboth =>
      cases hsecond with
      | error hmem' _ => exact .error ⟨hmem.1, hmem'.2⟩ hboth
      | left h => exact absurd (congrArg _ h) hend
      | right h => exact h.elim
  | left h => exact .left h
  | right h => exact absurd (congrArg _ h) hend

/-- With the ban off, a reference passes no flag to its target. -/
theorem linked_follow_of_free (ha : a.frame = .free) (hb : b.frame = .free)
    (hs : ¬ (w.findsCycles ∧ a.following.contains (target.url.write, subject.place)))
    (ht : ¬ (w'.findsCycles ∧ b.following.contains (target.url.write, subject.place)))
    (h : Linked L (a.jump target subject) (b.jump target subject)
      (w.visit subject target.schema none) (w'.visit subject target.schema none)) :
    Linked L a b (w.follow reference target subject) (w'.follow reference target subject) := by
  refine linked_follow hs ht ?_
  rw [ha, hb]
  exact h

end Walk

namespace Setting

/-- The setting without the check for cycles. -/
def unchecked (t : Setting) : Setting :=
  { t with findsCycles := false }

/-- The walk without the check reaches its limit at this depth, for any sound memory and any open
references. -/
def Cut (t : Setting) (root : Json) (target : Target) (subject : Subject) (depth : Nat) : Prop :=
  ∀ s : WalkState, s.Ready target.url → s.memory.Sound t.resolver root →
    (t.unchecked.visit depth subject target.schema none s).1 = .error .tooDeep

/-- The target and the value of the key reach the limit at every depth below `depth`. -/
def Endless (t : Setting) (root whole : Json) (depth : Nat) (key : String × Location) : Prop :=
  ∀ target subject, t.Leads root target → subject.LiesIn whole →
    (target.url.write, subject.place) = key → ∀ k < depth, t.Cut root target subject k

section

variable {t : Setting} {draft : Draft} {root whole schema : Json} {a b : WalkState} {scope : Url}
variable {subject : Subject}

theorem Endless.mono {depth k : Nat} {key : String × Location} (hk : k ≤ depth)
    (h : t.Endless root whole depth key) : t.Endless root whole k key :=
  fun target subject hleads hlies hkey i hi => h target subject hleads hlies hkey i (by omega)

/-- Following a reference reaches the depth limit if the walk without the check does at its
target. -/
theorem Cut.follow {target : Target} {depth : Nat} (h : t.Cut root target subject depth)
    (hframe : a.frame = .free) (hmem : a.memory.Sound t.resolver root) (reference : String) :
    (Walker.follow ⟨t.resolver, false, t.unchecked.visit depth⟩ reference target subject a).1 =
      .error .tooDeep := by
  rw [follow_apply, if_neg (by rintro ⟨⟨⟩, -⟩)]
  dsimp only
  rw [hframe]
  exact h _ (.jump hframe target subject) hmem

variable (ht : t.registry = .ofDraft draft) (hr : t.resolver.Honest)
variable (hbase : t.resolver.base.Regular) (hban : t.Unbanned root)

include ht hr hbase hban

/-- The result of a walk without the check that does not reach its limit is the same for a greater
depth, any sound memory and any open references. -/
theorem linked_unchecked_of_le {m m' : Nat} (hle : m ≤ m') (subject : Subject)
    (hreach : t.Reachable root scope schema) (ha : a.Ready scope) (hb : b.Ready scope) :
    Linked (.deeper t.resolver root) a b
      (t.unchecked.visit m subject schema none) (t.unchecked.visit m' subject schema none) := by
  induction m generalizing m' a b scope subject schema with
  | zero => exact fun _ _ _ => .left rfl
  | succ m ih =>
      obtain ⟨m', rfl⟩ : ∃ k, m' = k + 1 := ⟨m' - 1, by omega⟩
      refine linked_apply_of_reachable ht hr hbase hban (fun _ _ => trivial) rfl rfl hreach ha hb
        ?_ ?_
      · intro a' b' scope' inner sub _ ha' hb' hsub _
        exact ih (by omega) inner hsub ha' hb'
      · intro a' b' reference target _ ha' hb' hleads
        refine linked_follow_of_free ha' hb' (by rintro ⟨⟨⟩, -⟩) (by rintro ⟨⟨⟩, -⟩) ?_
        exact ih (by omega) subject hleads.reachable (.jump ha' target subject)
          (.jump hb' target subject)

/-- If one walk reaches its limit at the target of a reference, all of them do. -/
theorem cut_of_tooDeep {target : Target} {depth : Nat} (hleads : t.Leads root target)
    (ha : a.Ready target.url) (hmem : a.memory.Sound t.resolver root)
    (h : (t.unchecked.visit depth subject target.schema none a).1 = .error .tooDeep) :
    t.Cut root target subject depth := by
  intro s hs hmemory
  have hmeets := linked_unchecked_of_le ht hr hbase hban (Nat.le_refl depth) subject
    hleads.reachable hs ha s.memory a.memory ⟨hmemory, hmem⟩
  rw [WalkState.remember_memory, WalkState.remember_memory] at hmeets
  rcases hmeets.result with ⟨hsame, -⟩ | ⟨e, hleft, rfl⟩ | ⟨e, -, hright⟩
  · rw [hsame, h]
  · exact hleft
  · exact hright.elim

/-- The walks with and without the check do the same until a cycle is reported. -/
theorem linked_unchecked (depth : Nat) (subject : Subject)
    (hreach : t.Reachable root scope schema) (ha : a.Ready scope) (hb : b.Ready scope) :
    Linked (.upToCircle t.resolver root) a b
      (t.visit depth subject schema none) (t.unchecked.visit depth subject schema none) := by
  induction depth generalizing a b scope subject schema with
  | zero => exact .fail trivial
  | succ depth ih =>
      refine linked_apply_of_reachable ht hr hbase hban (fun _ _ => trivial) rfl rfl hreach ha hb
        ?_ ?_
      · intro a' b' scope' inner sub _ ha' hb' hsub _
        exact ih inner hsub ha' hb'
      · intro a' b' reference target _ ha' hb' hleads
        by_cases hcircle : t.findsCycles ∧ a'.following.contains (target.url.write, subject.place)
        · intro m n _
          rw [follow_of_circle (s := a'.remember m) hcircle]
          exact .left ⟨reference, rfl⟩
        · refine linked_follow_of_free ha' hb' hcircle (by rintro ⟨⟨⟩, -⟩) ?_
          exact ih subject hleads.reachable (.jump ha' target subject)
            (.jump hb' target subject)

/-- At a new key, the least depth matters at which the walk without the check ends: at every smaller
depth it reaches its limit, which is the property required of an open key. -/
theorem linked_of_least {target : Target} {following : List (String × Location)} {m : Nat}
    {x : Walk (List Violation)} (hleads : t.Leads root target) (hlies : subject.LiesIn whole)
    (hb : b.Ready target.url) (hendless : ∀ key ∈ following, t.Endless root whole m key)
    (hvisit : ∀ k ≤ m,
      (∀ key ∈ (target.url.write, subject.place) :: following, t.Endless root whole k key) →
      Linked (.endless t.resolver root) a b x
        (t.unchecked.visit k subject target.schema none)) :
    Linked (.endless t.resolver root) a b x
      (t.unchecked.visit m subject target.schema none) := by
  by_cases hcut : ∀ k ≤ m, t.Cut root target subject k
  · -- It never ends, as far as it goes.
    exact fun _ n hmem => .of_right (hcut m (Nat.le_refl m) _ (hb.remember n) hmem.2) rfl
  · classical
    simp only [not_forall] at hcut
    obtain ⟨k, hk, hkends⟩ := hcut
    have hends : ∃ k, ¬ t.Cut root target subject k := ⟨k, hkends⟩
    have hle : Nat.find hends ≤ m := (Nat.find_min' hends hkends).trans hk
    have hleast := fun k (hk : k < Nat.find hends) => not_not.mp (Nat.find_min hends hk)
    refine (hvisit (Nat.find hends) hle fun key hkey => ?_).deeper
      (linked_unchecked_of_le ht hr hbase hban hle subject hleads.reachable hb hb) fun n hn herror => ?_
    · rcases List.mem_cons.mp hkey with rfl | hkey
      · -- The key tells the target and the value apart from all others.
        intro other value hother hvalue hsame k hk
        obtain ⟨hurl, hplace⟩ := Prod.ext_iff.mp hsame
        obtain rfl := hother.eq_of_write hbase hleads hurl
        obtain rfl := hvalue.eq_of_place hlies hplace
        exact hleast k hk
      · exact (hendless key hkey).mono hle
    · exact Nat.find_spec hends
        (cut_of_tooDeep ht hr hbase hban hleads (hb.remember n) hn herror)

/-- A walk with the check compared with a deeper one without it: they have the same result, or one
of them reaches its limit. A cycle is reported only if the other walk reaches its limit. -/
theorem linked_of_endless (depth m : Nat) (hreach : t.Reachable root scope schema)
    (hlies : subject.LiesIn whole) (ha : a.Ready scope) (hb : b.Ready scope)
    (hendless : ∀ key ∈ a.following, t.Endless root whole m key) :
    Linked (.endless t.resolver root) a b
      (t.visit depth subject schema none) (t.unchecked.visit m subject schema none) := by
  -- By induction on the depth of the other walk, which decreases to the least depth that matters
  -- whenever a reference is followed. The open keys are endless up to the remaining depth.
  induction m using Nat.strong_induction_on generalizing depth a b scope subject schema with
  | _ m ih =>
      cases m with
      | zero => exact fun _ _ _ => .right rfl
      | succ m =>
          cases depth with
          | zero => exact fun _ _ _ => .left rfl
          | succ depth =>
              have hshallower (key : String × Location) (hkey : key ∈ a.following) :
                  t.Endless root whole m key := (hendless key hkey).mono (Nat.le_succ m)
              refine linked_apply_of_reachable ht hr hbase hban (fun _ hplain => hplain.2) rfl rfl
                hreach ha hb ?_ ?_
              · intro a' b' scope' inner sub hfollowing ha' hb' hsub hnear
                refine ih m (Nat.lt_succ_self m) depth hsub (hlies.near hnear) ha' hb' ?_
                rw [hfollowing]
                exact hshallower
              · intro a' b' reference target hfollowing ha' hb' hleads
                by_cases hcircle : t.findsCycles ∧
                    a'.following.contains (target.url.write, subject.place)
                · have hkey : (target.url.write, subject.place) ∈ a.following := by
                    simpa [hfollowing] using hcircle.2
                  have hcut := hendless _ hkey target subject hleads hlies rfl m (Nat.lt_succ_self m)
                  exact fun _ n hmem =>
                    .of_right (hcut.follow (a := b'.remember n) hb' hmem.2 reference) rfl
                · refine linked_follow_of_free ha' hb' hcircle (by rintro ⟨⟨⟩, -⟩) ?_
                  refine linked_of_least ht hr hbase hban hleads hlies
                    (.jump hb' target subject) hshallower fun k hk hkeys => ?_
                  refine ih k (Nat.lt_succ_of_le hk) depth hleads.reachable hlies
                    (.jump ha' target subject) (.jump hb' target subject) ?_
                  rw [← hfollowing] at hkeys
                  exact hkeys

end

end Setting

end SchemaCheck
