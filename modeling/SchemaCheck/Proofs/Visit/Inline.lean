import SchemaCheck.Proofs.Keyword.Mirror
import SchemaCheck.Proofs.Resolver.SelfContained
import SchemaCheck.Proofs.Visit.Reachable

/-!
Walks over a schema and over the same schema with its references inlined. If the ban is off and no
`id` declares a scope, a reference that consists of a fragment is applied like its target, for the
same location of the instance and without a step in the schema path. An open target is not met again
for the same value, since no schema leads to itself.
-/

namespace SchemaCheck

open Walk Relation

namespace Resolver

variable {r : Resolver} {root : Json} {reference : String} {target : Json.Members} {c : Cache}

/-- The target in the root of a reference that consists of a fragment, if it is an object. -/
def fragmentAt? (r : Resolver) (root : Json) (reference : String) : Option Json.Members :=
  if reference.toList.head? = some '#' then
    match r.base.join reference with
    | .ok u => (r.targetAt root u).toOption.bind Json.object?
    | .error _ => none
  else none

theorem fragmentAt?_eq_some (h : r.fragmentAt? root reference = some target) :
    ∃ u, r.base.join reference = .ok u ∧ u.bare = r.base.bare ∧
      r.targetAt root u = .ok (.object target) := by
  unfold fragmentAt? at h
  split at h
  next hhash =>
    split at h
    next u hjoin =>
      obtain ⟨j, hj, hobject⟩ := Option.bind_eq_some_iff.mp h
      cases j <;> cases hobject
      refine ⟨u, hjoin, Url.bare_join_of_hash hhash hjoin, ?_⟩
      cases htarget : r.targetAt root u with
      | error e =>
          rw [htarget] at hj
          cases hj
      | ok found =>
          rw [htarget] at hj
          exact congrArg _ (Option.some.inj hj)
    next => cases h
  next => cases h

/-- The target of such a reference is part of the root. -/
theorem part_of_fragmentAt? (h : r.fragmentAt? root reference = some target) :
    (Json.object target).PartOf root := by
  obtain ⟨u, -, hbare, htarget⟩ := fragmentAt?_eq_some h
  obtain ⟨document, hdocument, hpart⟩ := part_of_targetAt htarget
  rw [(AtRoot.base hbare).documentAt] at hdocument
  cases hdocument
  exact hpart

/-- In a scope of the root, such a reference is resolved to its target in the root. -/
theorem resolve_of_fragmentAt? (h : r.fragmentAt? root reference = some target)
    (hbase : r.base.Regular) {scopes : ScopeStack} (hscope : scopes.current.bare = r.base.bare)
    (hregular : scopes.current.Regular) (hc : c.Sound r root) :
    ∃ u, u.Regular ∧ u.bare = r.base.bare ∧ r.targetAt root u = .ok (.object target) ∧
      ((r.resolve reference scopes).run c).1 = .ok ⟨u, .object target⟩ ∧
      ((r.resolve reference scopes).run c).2.Sound r root := by
  obtain ⟨u, hjoin, hbare, htarget⟩ := fragmentAt?_eq_some h
  have hu : u.Regular := Url.join_regular hbase hjoin
  refine ⟨u, hu, hbare, htarget, ?_, (sound_resolve hc hregular reference).2⟩
  rw [← join_congr hscope] at hjoin
  have hfound := run_resolveUrl_of_sound hc hu
  rw [htarget] at hfound
  rcases hrun : (r.resolveUrl u).run c with ⟨result, c'⟩
  rw [hrun] at hfound
  cases hfound
  rw [run_resolve_of_ok hjoin hrun]

end Resolver

namespace Setting

variable {t : Setting} {w w' : Walker} {subject inner : Subject} {members : Json.Members}
variable {s s' : WalkState} {root sub schema : Json}

/-- A node that declares no scope and no flag only runs its keywords. -/
theorem applySchema_free (hs : s.frame = .free)
    (hid : (Json.Members.find? "id" members).bind Json.string? = none)
    (hban : Json.Members.find? Ban.keyword members ≠ some (.bool true)) :
    t.applySchema w subject (.object members) none s =
      ((t.applyKeywords w false false subject members s).1,
        outside s none (t.applyKeywords w false false subject members s).2) := by
  have hfree : frameOf members none s.frame.ban = .free := by
    simp [frameOf, hs, Frame.free, ownBan_eq_false hban]
  have hframe : s.enter none (frameOf members none s.frame.ban) = s := by
    rw [hfree, ← hs]
    rfl
  have heffective : effectiveBan members none s.frame.ban = false := by
    rw [effectiveBan, Option.or_none, hs]
    exact ownBan_eq_false hban
  have hstay : s.relieve false = s := by
    rw [WalkState.relieve, show { s.frame with suppressBranchBan := false } = s.frame by rw [hs]; rfl]
  rw [applySchema_of_scope subject none (declaredScope_of_nameless _ hid), inNode_apply, hframe,
    heffective, applyMembers_off, hstay]
  rfl

/-- The targets of the references of the root. -/
abbrev leads (t : Setting) (root : Json) : String → Option Json.Members :=
  t.resolver.fragmentAt? root

/-- All schemas that can be reached from the root are parts of it. -/
theorem part_of_met (h : ReflTransGen (Keyword.Onward (t.leads root)) root sub) :
    sub.PartOf root := by
  induction h with
  | refl => exact .whole
  | tail _ honward ih =>
      cases honward with
      | inside _ hentry hsub =>
          exact (Layout.part_of_mem_places hsub).trans ((Json.PartOf.of_mem_members hentry).trans ih)
      | target _ hleads => exact Resolver.part_of_fragmentAt? hleads

/-- References resolve if every reference in the root leads to an object of it. -/
theorem resolved_of_parts (h : ∀ part ∈ root.parts, ∀ j, part.get? refKeyword = some j →
    (j.string?.bind (t.leads root)).isSome) : Keyword.Resolved (t.leads root) root := by
  intro sub hpath j hfind
  obtain ⟨target, htarget⟩ :=
    Option.isSome_iff_exists.mp (h sub (part_of_met hpath).mem_parts j hfind)
  obtain ⟨reference, hreference, hleads⟩ := Option.bind_eq_some_iff.mp htarget
  cases j with
  | string text =>
      cases hreference
      exact ⟨reference, target, rfl, hleads⟩
  | _ => cases hreference

/-- Nothing in the root declares a scope or switches the ban on, every reachable reference leads to
an object, and no schema leads to itself. -/
structure Inlinable (t : Setting) (root : Json) : Prop where
  base : t.resolver.base.Regular
  ids : root.ids = []
  unbanned : ∀ part ∈ root.parts, part.get? Ban.keyword ≠ some (.bool true)
  resolved : Keyword.Resolved (t.leads root) root
  acyclic : ∀ sub, ReflTransGen (Keyword.Onward (t.leads root)) root sub →
    ¬ TransGen (Keyword.Onward (t.leads root)) sub sub

/-- The state of a walk that is about to apply a schema reachable from the root: it is in a scope of
the root, the ban is off, and the open targets for the subject are those that have led to the
schema. -/
structure OnTrack (t : Setting) (root : Json) (s : WalkState) (subject : Subject)
    (schema : Json) : Prop where
  scope : s.scopes.current.bare = t.resolver.base.bare
  regular : s.scopes.current.Regular
  frame : s.frame = .free
  met : ReflTransGen (Keyword.Onward (t.leads root)) root schema
  above : ∀ key ∈ s.following, key.2.length ≤ subject.place.length
  behind : ∀ key ∈ s.following, key.2 = subject.place →
    ∃ u target, u.Regular ∧ u.write = key.1 ∧ t.resolver.targetAt root u = .ok target ∧
      ReflTransGen (Keyword.Onward (t.leads root)) target schema

namespace OnTrack

/-- A part of a value has a longer location. -/
theorem lt_of_near (h : subject.Near inner) :
    inner = subject ∨ subject.place.length < inner.place.length := by
  cases h with
  | here => exact .inl rfl
  | member _ _ => exact .inr (by simp [Subject.child])
  | item _ _ => exact .inr (by simp [Subject.child])

theorem inside (h : t.OnTrack root s subject schema)
    (honward : Keyword.Onward (t.leads root) schema sub) (hnear : subject.Near inner) :
    t.OnTrack root s inner sub where
  scope := h.scope
  regular := h.regular
  frame := h.frame
  met := h.met.tail honward
  above key hkey := by
    have habove := h.above key hkey
    rcases lt_of_near hnear with rfl | hlt
    · exact habove
    · omega
  behind key hkey hplace := by
    rcases lt_of_near hnear with rfl | hlt
    · obtain ⟨u, target, hu, hwrite, htarget, hpath⟩ := h.behind key hkey hplace
      exact ⟨u, target, hu, hwrite, htarget, hpath.tail honward⟩
    · have habove := h.above key hkey
      rw [hplace] at habove
      omega

variable {reference : String} {target : Json.Members} {u : Url}

/-- The target of a reference is not open for the subject. -/
theorem not_followed (h : t.OnTrack root s subject (.object members)) (ht : t.Inlinable root)
    (href : Json.Members.find? refKeyword members = some (.string reference))
    (hleads : t.leads root reference = some target) (hu : u.Regular)
    (htarget : t.resolver.targetAt root u = .ok (.object target)) :
    (u.write, subject.place) ∉ s.following := by
  intro hkey
  have honward := Keyword.Onward.target href hleads
  obtain ⟨v, found, hv, hwrite, hfound, hpath⟩ := h.behind _ hkey rfl
  obtain rfl := Url.write_injective hv hu hwrite
  rw [htarget] at hfound
  cases hfound
  exact ht.acyclic _ (h.met.tail honward) (TransGen.tail' hpath honward)

/-- The target of a reference is applied on track. -/
theorem jump (h : t.OnTrack root s subject (.object members))
    (href : Json.Members.find? refKeyword members = some (.string reference))
    (hleads : t.leads root reference = some target) (hu : u.Regular)
    (hbare : u.bare = t.resolver.base.bare)
    (htarget : t.resolver.targetAt root u = .ok (.object target)) :
    t.OnTrack root (s.jump ⟨u, .object target⟩ subject) subject (.object target) where
  scope := hbare
  regular := hu
  frame := h.frame
  met := h.met.tail (.target href hleads)
  above key hkey := by
    rcases List.mem_cons.mp hkey with rfl | hkey
    · exact Nat.le_refl _
    · exact h.above key hkey
  behind key hkey hplace := by
    rcases List.mem_cons.mp hkey with rfl | hkey
    · exact ⟨u, .object target, hu, rfl, htarget, .refl⟩
    · obtain ⟨v, found, hv, hwrite, hfound, hpath⟩ := h.behind key hkey hplace
      exact ⟨v, found, hv, hwrite, hfound, hpath.tail (.target href hleads)⟩

/-- A reachable schema declares no scope and does not switch the ban on. -/
theorem plain (h : t.OnTrack root s subject (.object members)) (ht : t.Inlinable root) :
    (Json.Members.find? "id" members).bind Json.string? = none ∧
      Json.Members.find? Ban.keyword members ≠ some (.bool true) := by
  have hpart := part_of_met h.met
  exact ⟨hpart.nameless ht.ids, ht.unbanned _ hpart.mem_parts⟩

end OnTrack

variable {I J : Memory → Prop} {f : Json → Json} {y : Walk (List Violation)}

theorem mirrors_applyKeyword (ht : t.registry = .draft4) (hI : Memory.Versed I)
    (hJ : Memory.Versed J) (hf : Json.Shaping f) {name : String} {declared : Json}
    (href : name ≠ refKeyword) (hban : name ≠ Ban.keyword)
    (hw : Walker.Mirrors I J s s' f subject (· ∈ Keyword.places name declared) w w') :
    Walk.Mirrors I J s s' Violation.Same (t.applyKeyword w name declared subject members)
      (t.applyKeyword w' name (Keyword.replace f name declared) subject
        (Keyword.replaceIn f members)) := by
  unfold applyKeyword
  cases hlookup : t.registry.lookup? name with
  | none => exact .pure (.refl [])
  | some k =>
      rw [ht] at hlookup
      have hk := Keyword.mirrors_of_lookup? hlookup href hban hI hJ hf declared subject members hw
      refine hk.map fun vs ws hsame => hsame.map fun v v' houtline => ?_
      have hfill := Violation.outline_fill name declared (Keyword.replace f name declared)
        subject.value (.object members) (.object (Keyword.replaceIn f members)) houtline
      rw [if_neg href, if_neg href]
      exact Violation.outline_underSchema _ hfill

/-- A node without a reference runs its keywords one after another. -/
theorem mirrors_applyKeywords (ht : t.registry = .draft4) (hI : Memory.Versed I)
    (hJ : Memory.Versed J) (hf : Json.Shaping f)
    (hnone : Json.Members.find? refKeyword members = none)
    (hw : ∀ entry ∈ members,
      Walker.Mirrors I J s s' f subject (· ∈ Keyword.places entry.1 entry.2) w w') :
    Walk.Mirrors I J s s' Violation.Same (t.applyKeywords w false false subject members)
      (t.applyKeywords w' false false subject (Keyword.replaceIn f members)) := by
  unfold applyKeywords
  have hdraft : t.registry = .ofDraft .draft4 := ht
  rw [Keyword.find?_replaceIn, hnone, applyBan_off hdraft, applyBan_off hdraft]
  refine .bind (R := Violation.Same) (.pure (.refl [])) fun plain plain' hplain =>
    .map (.collect fun entry hentry => ?_) fun _ _ hothers => hplain.append hothers
  obtain ⟨name, declared⟩ := entry
  have href : name ≠ refKeyword := by
    rintro rfl
    exact Json.Members.find?_eq_none hnone hentry
  dsimp only
  split
  next => exact .pure (.refl [])
  next hban => exact mirrors_applyKeyword ht hI hJ hf href hban (hw _ hentry)

/-- A node without a reference compared with the node in which all schemas are replaced. -/
theorem mirrors_inside (ht : t.registry = .draft4) (hI : Memory.Versed I) (hJ : Memory.Versed J)
    (hf : Json.Shaping f) (hroot : t.Inlinable root) (h : t.OnTrack root s subject (.object members))
    (hs' : s'.frame = .free) (hnone : Json.Members.find? refKeyword members = none)
    (hvisit : ∀ inner sub, subject.Near inner →
      Keyword.Onward (t.leads root) (.object members) sub →
      Walk.Mirrors I J s s' Violation.Same (w.visit inner sub none) (w'.visit inner (f sub) none)) :
    Walk.Mirrors I J s s' Violation.Same (t.applySchema w subject (.object members) none)
      (t.applySchema w' subject (.object (Keyword.replaceIn f members)) none) := by
  obtain ⟨hid, hban⟩ := h.plain hroot
  have hkeywords : Walk.Mirrors I J s s' Violation.Same
      (t.applyKeywords w false false subject members)
      (t.applyKeywords w' false false subject (Keyword.replaceIn f members)) := by
    refine mirrors_applyKeywords ht hI hJ hf hnone fun entry hentry =>
      { descend := fun inner sub hnear hsub => hvisit inner sub hnear (.inside hnone hentry hsub)
        branch := fun sub hsub m n => ?_ }
    show I m → J n → Mirrored I J s s' Violation.Same
      (w.visit subject sub (if s.frame.suppressBranchBan then some false else none) _)
      (w'.visit subject (f sub) (if s'.frame.suppressBranchBan then some false else none) _)
    rw [h.frame, hs']
    exact hvisit subject sub .here (.inside hnone hentry hsub) m n
  intro m n hm hn
  rw [applySchema_free (s := s.remember m) h.frame hid hban,
    applySchema_free (s := s'.remember n) hs'
      (by rwa [Keyword.find?_replaceIn_of_nowhere rfl])
      (by rwa [Keyword.find?_replaceIn_of_nowhere rfl])]
  exact (hkeywords m n hm hn).leave (f := outside s none) (g := outside s' none)
    (fun _ => rfl) fun _ => rfl

section

variable {depth : Nat} {reference : String} {target : Json.Members}

/-- Following a reference has the same result as applying its target. -/
theorem mirrors_refer (hroot : t.Inlinable root) (h : t.OnTrack root s subject (.object members))
    (href : Json.Members.find? refKeyword members = some (.string reference))
    (hleads : t.leads root reference = some target)
    (hvisit : ∀ s, t.OnTrack root s subject (.object target) →
      Walk.Mirrors (·.Sound t.resolver root) J s s' Violation.Same
        (t.visit depth subject (.object target) none) y) :
    Walk.Mirrors (·.Sound t.resolver root) J s s' Violation.Same
      (Walker.refer ⟨t.resolver, t.findsCycles, t.visit depth⟩ reference subject) y := by
  refine .step_left (p := fun found => ∃ u : Url, u.Regular ∧ u.bare = t.resolver.base.bare ∧
    t.resolver.targetAt root u = .ok (.object target) ∧ found = ⟨u, .object target⟩)
    (fun m hm => ?_) ?_
  · obtain ⟨u, hu, hbare, htarget, hfound, hsound⟩ :=
      Resolver.resolve_of_fragmentAt? hleads hroot.base h.scope h.regular hm.cache
    refine ⟨⟨u, .object target⟩, { m with cache := _ }, ?_,
      ⟨u, hu, hbare, htarget, rfl⟩, hsound, hm.compiled⟩
    rw [resolve_apply]
    show (((t.resolver.resolve reference s.scopes).run m.cache).1.mapError Failure.schema, _) = _
    rw [hfound]
    rfl
  · rintro found ⟨u, hu, hbare, htarget, rfl⟩
    refine .follow_left (h.not_followed hroot href hleads hu htarget) ?_
    rw [h.frame]
    exact hvisit _ (h.jump href hleads hu hbare htarget)

/-- A node with a reference has the same result as its target. -/
theorem mirrors_target (ht : t.registry = .draft4) (hroot : t.Inlinable root)
    (h : t.OnTrack root s subject (.object members))
    (href : Json.Members.find? refKeyword members = some (.string reference))
    (hleads : t.leads root reference = some target)
    (hvisit : ∀ s, t.OnTrack root s subject (.object target) →
      Walk.Mirrors (·.Sound t.resolver root) J s s' Violation.Same
        (t.visit depth subject (.object target) none) y) :
    Walk.Mirrors (·.Sound t.resolver root) J s s' Violation.Same
      (t.visit (depth + 1) subject (.object members) none) y := by
  obtain ⟨hid, hban⟩ := h.plain hroot
  let w : Walker := ⟨t.resolver, t.findsCycles, t.visit depth⟩
  have hdraft : t.registry = .ofDraft .draft4 := ht
  have hkeywords : Walk.Mirrors (·.Sound t.resolver root) J s s' Violation.Same
      (t.applyKeywords w false false subject members) y := by
    have hrefer := mirrors_refer hroot h href hleads hvisit
    unfold applyKeywords applyKeyword
    rw [href]
    dsimp only
    rw [lookup?_reference hdraft]
    -- The name of the reference is not added to locations, and all else is filled in already.
    refine .map_left hrefer (lists_filled_refer depth reference subject) fun vs ws hvs hsame =>
      hsame.map_left fun v hv => ?_
    exact (hvs v hv).outline_fill _ _ _ _
  intro m n hm hn
  show Mirrored _ J s s' _ (t.applySchema w subject (.object members) none (s.remember m)) _
  rw [applySchema_free (s := s.remember m) h.frame hid hban]
  exact (hkeywords m n hm hn).leave (f := outside s none) (g := id) (fun _ => rfl) fun _ => rfl

end

/-- If the inlining depth is sufficient, the walk over the inlined schema mirrors the walk that
follows references. -/
theorem mirrors_visit (ht : t.registry = .draft4) (hJ : Memory.Versed J) (hroot : t.Inlinable root)
    {n : Nat} (hends : Keyword.Ends (t.leads root) n schema)
    (h : t.OnTrack root s subject schema) (hs' : s'.frame = .free) {depth depth' : Nat}
    (hdepth : n < depth) (hdepth' : n < depth') :
    Walk.Mirrors (·.Sound t.resolver root) J s s' Violation.Same
      (t.visit depth subject schema none)
      (t.visit depth' subject (Keyword.inlined (t.leads root) n schema) none) := by
  have hI : Memory.Versed (·.Sound t.resolver root) := Memory.versed_sound t.resolver root
  induction n generalizing schema subject s depth depth' with
  | zero =>
      obtain ⟨depth, rfl⟩ := Nat.exists_eq_add_one.mpr hdepth
      obtain ⟨depth', rfl⟩ := Nat.exists_eq_add_one.mpr hdepth'
      cases schema with
      | object members => cases hends
      | _ => exact .pure (.refl [])
  | succ n ih =>
      obtain ⟨depth, rfl⟩ := Nat.exists_eq_add_one.mpr (Nat.zero_lt_of_lt hdepth)
      obtain ⟨depth', rfl⟩ := Nat.exists_eq_add_one.mpr (Nat.zero_lt_of_lt hdepth')
      cases schema with
      | object members =>
          cases hfind : Json.Members.find? refKeyword members with
          | none =>
              rw [Keyword.inlined_inside hfind]
              refine mirrors_inside ht hI hJ (Keyword.shaping_inlined _ n) hroot h hs' hfind
                fun inner sub hnear honward => ?_
              exact ih (hends sub honward) (h.inside honward hnear) (by omega) (by omega)
          | some declared =>
              obtain ⟨reference, target, rfl, hleads⟩ := hroot.resolved _ h.met declared hfind
              rw [Keyword.inlined_target hfind hleads]
              refine mirrors_target ht hroot h hfind hleads fun s hs => ?_
              exact ih (hends _ (.target hfind hleads)) hs (by omega) (by omega)
      | _ => exact .pure (.refl [])

/-- For an inlinable root some inlining depth is sufficient. -/
theorem Inlinable.exists_ends (h : t.Inlinable root) :
    ∃ n, Keyword.Ends (t.leads root) n root :=
  Keyword.exists_ends (fun _ hmet => (part_of_met hmet).mem_parts) h.acyclic

end Setting

end SchemaCheck
