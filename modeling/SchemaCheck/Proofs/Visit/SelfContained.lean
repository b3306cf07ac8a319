import SchemaCheck.Proofs.Keyword.Rank
import SchemaCheck.Proofs.Resolver.SelfContained
import SchemaCheck.Proofs.Visit.Guard
import SchemaCheck.Proofs.Visit.Reachable

/-!
Walks that never leave the root. If the root has no `id` below its top level and all its references
are fragments, every schema that a walk applies lies in the root and the scope is a locator of the
root, also with cyclic references.
-/

namespace SchemaCheck.Setting

open Walk

variable {t : Setting} {draft : Draft} {root schema : Json} {s : WalkState}
variable {members : Json.Members}

/-- The state of a walk that is about to apply a schema of the root in a scope of the root. -/
structure InRoot (t : Setting) (root : Json) (s : WalkState) (schema : Json) : Prop where
  scope : t.resolver.AtRoot root s.scopes.current
  regular : s.scopes.current.Regular
  drawn : schema.DrawnFrom root
  nameless : schema = root ∨ schema.ids = []

/-- The memory of a walk that has not left the root. -/
structure Untouched (t : Setting) (root : Json) (m : Memory) : Prop where
  sound : m.Sound t.resolver root
  requests : m.cache.requests = []

/-- The references of a schema of the root are references in the root. -/
theorem part_of_names {reference : String} (hdrawn : (Json.object members).DrawnFrom root)
    (h : Names members reference) :
    ∃ part ∈ root.parts, part.get? "$ref" = some (.string reference) := by
  rcases hdrawn with hpart | ⟨k, -, htyped⟩
  · rcases h with hown | ⟨name, -, branches, hbranches, branch, hbranch, hreference⟩
    · exact ⟨_, hpart.mem_parts, hown⟩
    · have hfind := Json.Members.mem_of_find? (find?_of_branchesOf hbranches)
      have hbelow : branch.PartOf root :=
        (Json.PartOf.of_mem_items hbranch).trans ((Json.PartOf.of_mem_members hfind).trans hpart)
      obtain ⟨value, hvalue, htext⟩ := Option.bind_eq_some_iff.mp hreference
      cases value <;> cases htext
      exact ⟨branch, hbelow.mem_parts, hvalue⟩
  · -- What `disallow` puts together has neither a reference nor branches.
    obtain rfl : members = [("type", .array [k])] := Json.object.inj htyped
    rcases h with hown | ⟨name, hname, branches, hbranches, -⟩
    · cases hown
    · have hfind := find?_of_branchesOf hbranches
      rcases List.mem_cons.mp hname with rfl | hname
      · cases hfind
      · cases List.mem_singleton.mp hname
        cases hfind

namespace InRoot

variable {override : Option Bool} {own : Option Url} {relieved : Bool}

/-- Inside a node of the root the scope is one of the root. -/
theorem scope_within (h : t.InRoot root s (.object members)) (hr : t.resolver.SelfContained root)
    (hown : declaredScope members s.scopes = .ok own) :
    t.resolver.AtRoot root (s.within members override own relieved).scopes.current := by
  rw [WalkState.current_within]
  cases own with
  | none => exact h.scope
  | some u =>
      obtain ⟨id, hid, hjoin⟩ := declaredScope_eq_some hown
      rcases h.nameless with hroot | hnone
      · have hget : root.get? "id" = some (.string id) := hroot ▸ hid
        exact h.scope.join_id hr hget hjoin
      · have hmem : id ∈ (Json.object members).ids := Json.mem_ids .whole (by rw [hid]; rfl)
        rw [hnone] at hmem
        cases hmem

theorem regular_within (h : t.InRoot root s (.object members))
    (hown : declaredScope members s.scopes = .ok own) :
    (s.within members override own relieved).scopes.current.Regular := by
  rw [WalkState.current_within]
  exact regular_declaredScope h.regular hown

theorem inside (h : t.InRoot root s (.object members)) (hr : t.resolver.SelfContained root)
    (hown : declaredScope members s.scopes = .ok own) {sub : Json}
    (hinside : t.Inside members sub) :
    t.InRoot root (s.within members override own relieved) sub := by
  obtain ⟨-, entry, hmem, -, happlied⟩ := hinside
  have hsubset := Keyword.ids_subset_of_applied hmem happlied
  refine ⟨h.scope_within hr hown, h.regular_within hown,
    Keyword.drawn_of_applied h.drawn hmem happlied,
    .inr (List.eq_nil_of_subset_nil fun id hid => ?_)⟩
  rcases h.nameless with hroot | hnone
  · exact hr.below ▸ hroot ▸ hsubset hid
  · exact hnone ▸ Json.idsBelow_subset_ids _ (hsubset hid)

/-- The target of a fragment in a scope of the root. -/
theorem target (hr : t.resolver.SelfContained root)
    (hscope : t.resolver.AtRoot root s.scopes.current) (hregular : s.scopes.current.Regular)
    {m : Memory} (hm : m.Sound t.resolver root) {reference : String} {target : Target}
    (hreference : reference.toList.head? = some '#')
    (hresolve : ((t.resolver.resolve reference s.scopes).run m.cache).1 = .ok target)
    (subject : Subject) : t.InRoot root (s.jump target subject) target.schema := by
  obtain ⟨hjoin, htarget⟩ := Resolver.resolveUrl_of_resolve hresolve
  have hurl : target.url.Regular := Url.join_regular hregular hjoin
  have hat := hscope.join hreference hjoin
  rw [Resolver.run_resolveUrl_of_sound hm.cache hurl,
    Resolver.targetAt_of_document hat.documentAt] at htarget
  rcases Resolver.pointed_cases htarget with ⟨-, hwhole⟩ | ⟨token, rest, -, hwalk⟩
  · exact ⟨hat, hurl, .inl (hwhole ▸ .whole), .inl hwhole⟩
  · have hids := Json.Pointer.ids_subset_of_walk? hwalk
    exact ⟨hat, hurl, .inl (Json.Pointer.part_of_walk? hwalk),
      .inr (List.eq_nil_of_subset_nil (hr.below ▸ hids))⟩

theorem head_of_names (h : t.InRoot root s (.object members)) (hr : t.resolver.SelfContained root)
    {reference : String} (hnames : Names members reference) :
    reference.toList.head? = some '#' := by
  obtain ⟨part, hpart, hget⟩ := part_of_names h.drawn hnames
  exact hr.references part hpart reference hget

end InRoot

/-- A walk that starts in the root stays in it and makes no requests. -/
theorem passes_inRoot (hr : t.resolver.SelfContained root) :
    t.Passes (t.Untouched root) (t.InRoot root) where
  remember _ _ _ := fun h => ⟨h.scope, h.regular, h.drawn, h.nameless⟩
  compile pattern m hm := by
    refine ⟨hm.sound.compile pattern, ?_⟩
    rw [Memory.cache_compile]
    exact hm.requests
  inside s members override own relieved h hown := by
    have hscope : t.resolver.AtRoot root
        (s.within members override own relieved).scopes.current := h.scope_within hr hown
    have hregular : (s.within members override own relieved).scopes.current.Regular :=
      h.regular_within hown
    exact {
      resolve := fun reference m hnames hm => by
        have hlearnt := Resolver.sound_resolve hm.sound.cache hregular reference
        have hquiet := Resolver.resolve_of_atRoot hscope hm.sound.cache
          (h.head_of_names hr hnames) .offline
        exact ⟨⟨hlearnt.2, hm.sound.compiled⟩, hquiet.1.trans hm.requests⟩
      schema := fun sub hinside => h.inside hr hown hinside
      target := fun reference target subject m hreference hm hresolve _ =>
        .target hr hscope hregular hm.sound (h.head_of_names hr (.inl hreference)) hresolve
          subject }

/-- For the references of the root all fetchers agree. -/
theorem agreesWhere_inRoot (hr : t.resolver.SelfContained root) (fetcher : Fetcher) :
    t.AgreesWhere (t.Untouched root) (t.InRoot root) { t.resolver with fetcher } :=
  fun _ _ _ _ _ _ _ h hown hnames hm =>
    (Resolver.resolve_of_atRoot (h.scope_within hr hown) hm.sound.cache
      (h.head_of_names hr hnames) fetcher).2

end SchemaCheck.Setting
