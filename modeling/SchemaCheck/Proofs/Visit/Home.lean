import SchemaCheck.Proofs.Keyword.Rank
import SchemaCheck.Proofs.Resolver.Uncached
import SchemaCheck.Proofs.Visit.Guard
import SchemaCheck.Proofs.Visit.Reachable

/-!
Walks without ids. A walk is in the document that the innermost open reference leads to. If no ids
are kept, every schema that it applies lies in this document, and its references are joined with the
locator of the document: no schema declares a scope, and the current scope differs from the locator
in its fragment at most, which does not matter for joining.
-/

namespace SchemaCheck

open Walk

/-- The locator of the document that a walk is in: the target of the innermost open reference, or
the base if there is none. -/
inductive Home (base : Url) : List (String × Location) → Url → Prop
  | root : Home base [] base
  | target {u : Url} {place : Location} {outer : List (String × Location)} :
      u.Regular → Home base ((u.write, place) :: outer) u.bare

namespace Resolver

variable {r : Resolver} {root schema : Json} {u : Url}

/-- The schema is part of the document at the locator, or `disallow` builds it around such a
part. -/
def Holds (r : Resolver) (root : Json) (u : Url) (schema : Json) : Prop :=
  ∃ document, r.documentAt root u = .ok document ∧ schema.DrawnFrom document

/-- No object in any document has a string as its `id`. -/
def Nameless (r : Resolver) (root : Json) : Prop :=
  ∀ u document, r.documentAt root u = .ok document → document.ids = []

/-- If ids are not kept, those at the top level are removed. -/
theorem nameless_of_served (hkeeps : r.keepsIds = false) (hroot : root.ids = [])
    (hserved : ∀ u bytes document, r.fetcher u = .ok bytes →
      Document.decode u bytes = .ok document → document.idsBelow = []) : r.Nameless root := by
  intro u document h
  unfold documentAt at h
  split at h
  next hseeded =>
    cases h
    obtain ⟨rfl, -⟩ := root_of_mem_seed (Cache.mem_of_lookup? hseeded)
    exact hroot
  next =>
    obtain ⟨bytes, decoded, hbytes, hdecoded, rfl⟩ := fetched_eq_ok h
    rw [if_neg (by rw [hkeeps]; exact Bool.false_ne_true)]
    have hbelow := hserved _ bytes decoded hbytes hdecoded
    exact List.eq_nil_of_subset_nil (hbelow ▸ decoded.ids_without_subset)

/-- The schemas of a document without ids have no ids. -/
theorem Holds.ids_eq_nil {members : Json.Members} (h : r.Holds root u (.object members))
    (hr : r.Nameless root) : (Json.Members.find? "id" members).bind Json.string? = none := by
  obtain ⟨document, hdocument, hpart | ⟨k, -, htyped⟩⟩ := h
  · exact hpart.nameless (hr u document hdocument)
  · obtain rfl : members = [("type", .array [k])] := Json.object.inj htyped
    rfl

end Resolver

namespace Setting

variable {t : Setting} {draft : Draft} {root schema : Json} {s : WalkState} {home : Url}

/-- The state of a walk that is about to apply a schema of the document at `home`: joining a
reference of the schema with the current scope is the same as joining it with `home`. -/
structure AtHome (t : Setting) (root : Json) (home : Url) (s : WalkState) (schema : Json) :
    Prop where
  stands : Home t.resolver.base s.following home
  holds : t.resolver.Holds root home schema
  unscoped : ∀ members, schema = .object members → declaredScope members s.scopes = .ok none
  joins : ∀ reference, s.scopes.current.join reference = home.join reference
  regular : s.scopes.current.Regular

namespace AtHome

theorem of_holds (hr : t.resolver.Nameless root) (hhome : Home t.resolver.base s.following home)
    (hholds : t.resolver.Holds root home schema)
    (hjoins : ∀ reference, s.scopes.current.join reference = home.join reference)
    (hregular : s.scopes.current.Regular) : t.AtHome root home s schema where
  stands := hhome
  holds := hholds
  unscoped _ heq := declaredScope_of_nameless _ ((heq ▸ hholds).ids_eq_nil hr)
  joins := hjoins
  regular := hregular

/-- The schemas that a schema applies belong to the same document. -/
theorem inside {members : Json.Members} (h : t.AtHome root home s (.object members))
    (hr : t.resolver.Nameless root) {sub : Json} (hinside : t.Inside members sub) :
    t.AtHome root home s sub := by
  obtain ⟨document, hdocument, hdrawn⟩ := h.holds
  obtain ⟨-, entry, hmem, -, happlied⟩ := hinside
  exact .of_holds hr h.stands
    ⟨document, hdocument, Keyword.drawn_of_applied hdrawn hmem happlied⟩ h.joins h.regular

/-- The target of a reference belongs to the document that the reference leads to. -/
theorem target (h : t.AtHome root home s schema) (hr : t.resolver.Nameless root) {m : Memory}
    (hm : m.Sound t.resolver root) {reference : String} {target : Target}
    (hresolve : ((t.resolver.resolve reference s.scopes).run m.cache).1 = .ok target)
    (subject : Subject) :
    t.AtHome root target.url.bare (s.jump target subject) target.schema := by
  obtain ⟨hjoin, htarget⟩ := Resolver.resolveUrl_of_resolve hresolve
  have hregular : target.url.Regular := Url.join_regular h.regular hjoin
  rw [Resolver.run_resolveUrl_of_sound hm.cache hregular] at htarget
  obtain ⟨document, hdocument, hpart⟩ := Resolver.part_of_targetAt htarget
  rw [← Resolver.documentAt_bare] at hdocument
  exact .of_holds hr (.target hregular) ⟨document, hdocument, .inl hpart⟩
    (fun reference => (Url.join_bare target.url reference).symm) hregular

end AtHome

/-- A walk that starts at home stays at home. -/
theorem passes_atHome (hr : t.resolver.Nameless root) :
    t.Passes (·.Sound t.resolver root) fun s schema => ∃ home, t.AtHome root home s schema where
  remember _ _ _ := fun ⟨home, h⟩ =>
    ⟨home, h.stands, h.holds, h.unscoped, h.joins, h.regular⟩
  compile pattern _ hm := hm.compile pattern
  inside s members override own relieved := by
    rintro ⟨home, h⟩ hown
    obtain rfl : none = own := Except.ok.inj ((h.unscoped members rfl).symm.trans hown)
    have hinner : t.AtHome root home (s.within members override none relieved)
        (.object members) := ⟨h.stands, h.holds, h.unscoped, h.joins, h.regular⟩
    exact {
      resolve := fun reference m _ hm =>
        ⟨(Resolver.sound_resolve hm.cache h.regular reference).2, hm.compiled⟩
      schema := fun sub hinside => ⟨home, hinner.inside hr hinside⟩
      target := fun reference target subject m _ hm hresolve _ =>
        ⟨target.url.bare, hinner.target hr hm hresolve subject⟩ }

end Setting

end SchemaCheck
