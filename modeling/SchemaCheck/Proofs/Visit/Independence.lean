import SchemaCheck.Proofs.Visit.Reachable
import SchemaCheck.Proofs.Walk.Client

/-!
Independence of walks from the memory. In regular scopes, two walks that differ in their memories
only have the same outcome if both memories are sound, because looking up a reference or a pattern
in a sound memory gives the same result as resolving or compiling it. All changes of the memory are
caused by these two operations. Both facts hold for every registry whose keywords access the memory
only through their walkers.
-/

namespace SchemaCheck

open Walk

/-- The keyword uses its walker only by the operations of walkers. -/
def Keyword.Lawful (k : Keyword) : Prop :=
  ∀ declared subject schema, Client fun w => k w declared subject schema

/-- All keywords of the registry use their walkers only by the operations of walkers. -/
def Registry.Lawful (r : Registry) : Prop :=
  ∀ entry ∈ r.entries, entry.2.Lawful

theorem Registry.Preset.lawful {r : Registry} (h : r.Preset) : r.Lawful := by
  intro entry hentry declared subject schema
  obtain ⟨own, hreaches⟩ := Keyword.exists_reaches h hentry
  exact (hreaches declared subject schema).client

theorem Registry.Lawful.register {r : Registry} (h : r.Lawful) {k : Keyword} (hk : k.Lawful)
    (name : String) : (r.register name k).Lawful := by
  intro entry hentry
  rcases mem_insertEntry hentry with rfl | hentry
  · exact hk
  · exact h entry hentry

/-- Two runs from sound memories with the same outcome. -/
def Link.alike (r : Resolver) (root : Json) : Link :=
  .sound r root (fun _ => False) (fun _ => False) fun _ => True

variable {r : Resolver} {root : Json} {s t : WalkState} {w : Walker}

theorem Walk.Meets.of_alike {α : Type} {p q : Except Failure α × WalkState}
    (h : Meets (.alike r root) s t p q) : p.1 = q.1 ∧ p.2.memory.Sound r root := by
  cases h with
  | ok hmem => exact ⟨rfl, hmem.1⟩
  | error hmem _ => exact ⟨rfl, hmem.1⟩
  | left h => exact h.elim
  | right h => exact h.elim

/-- The first one of two runs that meet keeps the context, and its memory stays sound. -/
theorem Walk.Meets.leaves_of_alike {α : Type} {p q : Except Failure α × WalkState}
    (h : Meets (.alike r root) s t p q) : ∃ m, m.Sound r root ∧ p.2 = s.remember m := by
  cases h with
  | ok hmem => exact ⟨_, hmem.1, rfl⟩
  | error hmem _ => exact ⟨_, hmem.1, rfl⟩
  | left h => exact h.elim
  | right h => exact h.elim

/-- In regular scopes, resolving and compiling keep two runs linked. -/
structure Link.Common (L : Link) (r : Resolver) : Prop where
  both : ∀ e, L.both e
  regex : ∀ pattern s, Walk.Linked L s s (Walk.regex pattern) (Walk.regex pattern)
  resolve : ∀ (w : Walker) (s : WalkState) (reference : String), w.resolver = r →
    s.scopes.Regular → Walk.Linked L s s (w.resolve reference) (w.resolve reference)

/-- A reference has the same target for all sound memories. -/
theorem Link.common_alike (r : Resolver) (root : Json) : (Link.alike r root).Common r where
  both _ := trivial
  regex pattern s := (regular_sound fun _ _ => trivial).regex pattern s s
  resolve w s reference hw hs := by
    rintro m n ⟨hm, hn⟩
    obtain ⟨hsame, hlearnt⟩ := Resolver.sound_resolve hm.cache hs.current reference
    obtain ⟨hsame', hlearnt'⟩ := Resolver.sound_resolve hn.cache hs.current reference
    have hmem : (Link.alike r root).memories
        { m with cache := ((r.resolve reference s.scopes).run m.cache).2 }
        { n with cache := ((r.resolve reference s.scopes).run n.cache).2 } :=
      ⟨⟨hlearnt, hm.compiled⟩, hlearnt', hn.compiled⟩
    rw [resolve_apply, resolve_apply, hw]
    show Meets _ s s (((r.resolve reference s.scopes).run m.cache).1.mapError .schema, _)
      (((r.resolve reference s.scopes).run n.cache).1.mapError .schema, _)
    rw [hsame, hsame']
    cases ((r.resolve reference (.ofBase s.scopes.current)).run (r.seed root)).1 with
    | ok target => exact .ok hmem
    | error e => exact .error hmem trivial

/-- A run is linked to itself, with a memory that learns. -/
theorem Link.common_learning {R : Memory → Memory → Prop} (hR : Memory.Learning r R)
    (first : Memory) : (Link.same (R first) fun _ => True).Common r where
  both _ := trivial
  regex pattern _ :=
    linked_regex_same (fun m h => hR.trans h (hR.compile pattern m)) trivial
  resolve w s reference hw _ := by
    subst hw
    exact linked_resolve_same (fun m h => hR.trans h (hR.resolve reference s.scopes m))
      (fun _ _ => rfl) fun _ => trivial

/-- In regular scopes, the operations of the walker keep two runs linked. -/
structure Walker.Steady (L : Link) (r : Resolver) (w : Walker) : Prop where
  resolver : w.resolver = r
  visit : ∀ s : WalkState, s.scopes.Regular → ∀ subject schema override,
    Walk.Linked L s s (w.visit subject schema override) (w.visit subject schema override)

variable {L : Link}

/-- The target of a reference is applied in a regular scope again. -/
theorem Walker.Steady.refer (hw : w.Steady L r) (hL : L.Common r) (hs : s.scopes.Regular)
    (reference : String) (subject : Subject) :
    Walk.Linked L s s (w.refer reference subject) (w.refer reference subject) := by
  refine .bind (hL.resolve w s reference hw.resolver hs) fun target m _ _ hrun _ => ?_
  have htarget : (s.jump target subject).scopes.Regular :=
    hs.push (Url.join_regular hs.current (Resolver.resolveUrl_of_resolve (resolve_eq_ok hrun)).1)
  by_cases hcircle : w.findsCycles ∧ s.following.contains (target.url.write, subject.place)
  · intro m n hmem
    rw [follow_of_circle (s := s.remember m) hcircle, follow_of_circle (s := s.remember n) hcircle]
    exact .error hmem (hL.both _)
  · exact linked_follow hcircle hcircle (hw.visit _ htarget _ _ _)

/-- A client of a steady walker keeps two runs linked. -/
theorem Walk.Client.linked {α : Type} {x : Walker → Walk α} (hx : Client x)
    (hL : L.Common r) (hw : w.Steady L r) (hs : s.scopes.Regular) :
    Linked L s s (x w) (x w) := by
  induction hx generalizing s with
  | pure a => exact .pure a
  | bind _ _ ihx ihf => exact .bind (ihx hs) fun a _ _ _ _ _ => ihf a hs
  | fail e => exact .fail (hL.both e)
  | regex pattern => exact hL.regex pattern s
  | resolve reference => exact hL.resolve w s reference hw.resolver hs
  | look _ ih => exact fun m n hmem => ih s.scopes s.frame.ban hs hs m n hmem
  | inScope hu _ ih =>
      intro m n hmem
      have hmeets := ih (s := { s with scopes := s.scopes.push _ }) (hs.push hu) m n hmem
      exact hmeets.leave (f := fun s => { s with scopes := s.scopes.pop.2 })
        (g := fun s => { s with scopes := s.scopes.pop.2 }) (fun _ => rfl) fun _ => rfl
  | descend subject schema => exact hw.visit s hs subject schema none
  | branch subject schema => exact linked_branch rfl (hw.visit s hs subject schema _)
  | refer reference subject => exact hw.refer hL hs reference subject

/-- A client of a steady walker has the same outcome for all sound memories. -/
theorem Walk.Client.alike {α : Type} {x : Walker → Walk α} (hx : Client x)
    (hw : w.Steady (.alike r root) r) (hs : s.scopes.Regular) :
    Linked (.alike r root) s s (x w) (x w) :=
  hx.linked (Link.common_alike r root) hw hs

namespace Setting

theorem lawful_ofDraft {t : Setting} {draft : Draft} (ht : t.registry = .ofDraft draft) :
    t.registry.Lawful := by
  rw [ht]
  exact (Registry.preset_ofDraft draft).lawful

theorem lawful_draft4 {t : Setting} (ht : t.registry = .draft4) : t.registry.Lawful :=
  lawful_ofDraft (show t.registry = .ofDraft .draft4 from ht)

variable {t : Setting} (ht : t.registry.Lawful)

include ht

theorem client_applyKeyword (name : String) (declared : Json) (subject : Subject)
    (schema : Json.Members) :
    Client fun w => t.applyKeyword w name declared subject schema := by
  unfold applyKeyword
  cases hlookup : t.registry.lookup? name with
  | none => exact .pure []
  | some k => exact (ht _ (Registry.mem_of_lookup? hlookup) declared subject schema).map _

theorem client_applyBan (checked effective : Bool) (subject : Subject) (schema : Json.Members) :
    Client fun w => t.applyBan w checked effective subject schema := by
  unfold applyBan
  cases checked with
  | true => exact .pure []
  | false => exact client_applyKeyword ht _ _ _ _

theorem client_applyKeywords (checked effective : Bool) (subject : Subject)
    (schema : Json.Members) :
    Client fun w => t.applyKeywords w checked effective subject schema := by
  unfold applyKeywords
  cases Json.Members.find? refKeyword schema with
  | some declared => exact client_applyKeyword ht _ _ _ _
  | none =>
      refine .bind (client_applyBan ht checked effective subject schema) fun plain =>
        .map (.collect fun entry _ => ?_) _
      by_cases hname : entry.1 = Ban.keyword
      · simp only [if_pos hname]
        exact .pure []
      · simp only [if_neg hname]
        exact client_applyKeyword ht _ _ _ _

omit ht in
theorem client_unions (checked effective : Bool) (subject : Subject) (schema : Json.Members) :
    Client fun w =>
      Walk.collect (Ban.onBranches w effective subject) (t.unions checked schema) :=
  (program_unions (r := .free subject) (fun _ _ => trivial) effective checked subject).client

omit ht in
/-- The scopes inside a node are regular if those around it are. -/
theorem regular_within {members : Json.Members} {override : Option Bool} {own : Option Url}
    (hs : s.scopes.Regular) (hown : declaredScope members s.scopes = .ok own) (relieved : Bool) :
    (s.within members override own relieved).scopes.Regular := by
  cases own with
  | none => exact hs
  | some u => exact hs.push (regular_declaredScope hs.current hown)

/-- In regular scopes, a walk keeps two runs linked if resolving and compiling do. -/
theorem linked_visit (hL : L.Common t.resolver) (depth : Nat) (hs : s.scopes.Regular)
    (subject : Subject) (schema : Json) (override : Option Bool) :
    Linked L s s (t.visit depth subject schema override)
      (t.visit depth subject schema override) := by
  induction depth generalizing s subject schema override with
  | zero => exact .fail (hL.both _)
  | succ depth ih =>
      have hsteady : Walker.Steady L t.resolver ⟨t.resolver, t.findsCycles, t.visit depth⟩ :=
        ⟨rfl, fun s hs subject schema override => ih hs subject schema override⟩
      by_cases hobject : ∃ members, schema = .object members
      · obtain ⟨members, rfl⟩ := hobject
        refine linked_applySchema_of_inside rfl rfl (fun _ _ => hL.both _) fun own hown => ?_
        exact {
          unions := (client_unions _ _ subject members).linked hL hsteady
            (regular_within hs hown false)
          keywords := fun relieved _ =>
            (client_applyKeywords ht relieved _ subject members).linked hL hsteady
              (regular_within hs hown relieved) }
      · exact linked_applySchema_other fun members heq => hobject ⟨members, heq⟩

/-- Two walks with the same context and with sound memories have the same outcome. -/
theorem alike_visit (root : Json) (depth : Nat) (hs : s.scopes.Regular) (subject : Subject)
    (schema : Json) (override : Option Bool) :
    Linked (.alike t.resolver root) s s (t.visit depth subject schema override)
      (t.visit depth subject schema override) :=
  linked_visit ht (Link.common_alike t.resolver root) depth hs subject schema override

theorem steady_visit (root : Json) (depth : Nat) :
    Walker.Steady (.alike t.resolver root) t.resolver ⟨t.resolver, t.findsCycles, t.visit depth⟩ :=
  ⟨rfl, fun _ hs => alike_visit ht root depth hs⟩

/-- A relation that holds across each learning step holds across a walk. -/
theorem learnt_visit {R : Memory → Memory → Prop} (hR : Memory.Learning t.resolver R) (depth : Nat)
    (hs : s.scopes.Regular) (subject : Subject) (schema : Json) (override : Option Bool) :
    R s.memory (t.visit depth subject schema override s).2.memory := by
  have hlinked := linked_visit ht (Link.common_learning hR s.memory) depth hs subject schema override
  exact (hlinked s.memory s.memory ⟨rfl, hR.refl _⟩).memory_of_same.2

end Setting

end SchemaCheck
