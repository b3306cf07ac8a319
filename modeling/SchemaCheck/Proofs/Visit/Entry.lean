import SchemaCheck.Proofs.Visit.Home

/-!
The locator by which a walk entered its current document, for resolvers that keep ids. The `id` of a
document is read when its top level is applied. A walk that enters by a reference to the whole
document applies the top level first and then is in the scope declared by the `id`. A walk that
enters by a pointer never applies the top level and stays in the scope of its locator.
-/

namespace SchemaCheck

open Walk

/-- The locator by which a walk entered its current document, and whether it refers to the whole
document. -/
inductive Entry (base : Url) : List (String × Location) → Url → Bool → Prop
  | root : Entry base [] base true
  | target {u : Url} {place : Location} {outer : List (String × Location)} :
      u.Regular →
      Entry base ((u.write, place) :: outer) u
        (Resolver.fragmentTokens? (Resolver.decodedFragment u)).isNone

/-- The top level is the only object of the document with a string as its `id`, and joining this
with `u` gives `declared`. -/
structure Json.Declares (document : Json) (u declared : Url) : Prop where
  below : document.idsBelow = []
  top : ∃ id, (document.get? "id").bind Json.string? = some id ∧ u.join id = .ok declared

/-- A sufficient condition for a document to declare a scope. -/
theorem Json.declares_of_map {x : Except SchemaError Json} {id : String} {u declared : Url}
    (h : x.map (fun document => (document.idsBelow, (document.get? "id").bind Json.string?)) =
      .ok ([], some id)) (hjoin : u.join id = .ok declared) :
    ∃ document, x = .ok document ∧ document.Declares u declared := by
  cases x with
  | error e => cases h
  | ok document =>
      obtain ⟨hbelow, hid⟩ := Prod.mk.inj (Except.ok.inj h)
      exact ⟨document, rfl, hbelow, id, hid, hjoin⟩

namespace Setting

/-- References inside the schema are joined with `u`. -/
def InForce (s : WalkState) (schema : Json) (u : Url) : Prop :=
  ∀ members, schema = .object members →
    ∃ own, declaredScope members s.scopes = .ok own ∧ own.getD s.scopes.current = u

/-- The state of a walk that is about to apply a schema of the document that it entered by `u`. -/
structure Entered (t : Setting) (root : Json) (u : Url) (whole : Bool) (document : Json)
    (s : WalkState) (schema : Json) : Prop where
  enters : Entry t.resolver.base s.following u whole
  found : t.resolver.documentAt root u = .ok document
  drawn : schema.DrawnFrom document
  nameless : document.idsBelow = [] → schema = document ∨ schema.ids = []
  inForce : ∀ declared, document.Declares u declared →
    InForce s schema (if whole then declared else u)
  regular : s.scopes.current.Regular

variable {t : Setting} {root document schema : Json} {s : WalkState} {u : Url} {whole : Bool}

theorem inForce_of_nameless (hids : schema.ids = []) (hscope : s.scopes.current = u) :
    InForce s schema u := by
  rintro members rfl
  exact ⟨none, declaredScope_of_nameless _ (Json.PartOf.whole.nameless hids), hscope⟩

/-- Inside the document, the scope is the one that it declares. -/
theorem inForce_declared {declared : Url} (h : document.Declares u declared)
    (hscope : s.scopes.current = u) : InForce s document declared := by
  obtain ⟨id, hid, hjoin⟩ := h.top
  rintro members rfl
  refine ⟨some declared, ?_, rfl⟩
  rw [declaredScope, show (Json.Members.find? "id" members).bind Json.string? = some id from hid]
  dsimp only
  rw [hscope, hjoin]

namespace Entered

variable {members : Json.Members}

/-- A walk that starts at the top level of the document. -/
theorem of_whole (henters : Entry t.resolver.base s.following u true)
    (hdocument : t.resolver.documentAt root u = .ok document) (hscope : s.scopes.current = u)
    (hregular : u.Regular) : t.Entered root u true document s document where
  enters := henters
  found := hdocument
  drawn := .inl .whole
  nameless _ := .inl rfl
  inForce _ h := inForce_declared h hscope
  regular := hscope ▸ hregular

/-- A walk that starts below the top level of the document. -/
theorem of_pointer (henters : Entry t.resolver.base s.following u false)
    (hdocument : t.resolver.documentAt root u = .ok document) (hpart : schema.PartOf document)
    (hids : schema.ids ⊆ document.idsBelow) (hscope : s.scopes.current = u)
    (hregular : u.Regular) : t.Entered root u false document s schema where
  enters := henters
  found := hdocument
  drawn := .inl hpart
  nameless hbelow := .inr (List.eq_nil_of_subset_nil (hbelow ▸ hids))
  inForce _ h := inForce_of_nameless (List.eq_nil_of_subset_nil (h.below ▸ hids)) hscope
  regular := hscope ▸ hregular

/-- The scope inside a node is that of all schemas which the node applies. -/
theorem inside {override : Option Bool} {own : Option Url} {relieved : Bool} {sub : Json}
    (h : t.Entered root u whole document s (.object members))
    (hown : declaredScope members s.scopes = .ok own) (hinside : t.Inside members sub) :
    t.Entered root u whole document (s.within members override own relieved) sub := by
  obtain ⟨-, entry, hmem, -, happlied⟩ := hinside
  have hsubset : sub.ids ⊆ (Json.object members).idsBelow :=
    Keyword.ids_subset_of_applied hmem happlied
  have hids (hbelow : document.idsBelow = []) : sub.ids = [] := by
    refine List.eq_nil_of_subset_nil fun id hid => ?_
    rcases h.nameless hbelow with hwhole | hnone
    · exact hbelow ▸ hwhole ▸ hsubset hid
    · exact hnone ▸ Json.idsBelow_subset_ids _ (hsubset hid)
  exact {
    enters := h.enters
    found := h.found
    drawn := Keyword.drawn_of_applied h.drawn hmem happlied
    nameless := fun hbelow => .inr (hids hbelow)
    inForce := fun declared hdeclares => by
      obtain ⟨scope, hscope, hcurrent⟩ := h.inForce declared hdeclares members rfl
      obtain rfl : own = scope := Except.ok.inj (hown.symm.trans hscope)
      exact inForce_of_nameless (hids hdeclares.below) ((s.current_within ..).trans hcurrent)
    regular := by
      rw [WalkState.current_within]
      exact regular_declaredScope h.regular hown }

/-- A reference leads to the top level of its document or, with a pointer, below it. -/
theorem target {m : Memory} (hs : s.scopes.current.Regular) (hm : m.Sound t.resolver root)
    {reference : String} {target : Target}
    (hresolve : ((t.resolver.resolve reference s.scopes).run m.cache).1 = .ok target)
    (subject : Subject) :
    ∃ whole document,
      t.Entered root target.url whole document (s.jump target subject) target.schema := by
  obtain ⟨hjoin, htarget⟩ := Resolver.resolveUrl_of_resolve hresolve
  have hregular : target.url.Regular := Url.join_regular hs hjoin
  rw [Resolver.run_resolveUrl_of_sound hm.cache hregular] at htarget
  obtain ⟨document, hdocument, hpart⟩ := Resolver.part_of_targetAt htarget
  have henters : Entry t.resolver.base (s.jump target subject).following target.url _ :=
    .target hregular
  rw [Resolver.targetAt_of_document hdocument] at htarget
  rcases Resolver.pointed_cases htarget with ⟨htokens, hwhole⟩ | ⟨token, rest, htokens, hwalk⟩
  · subst hwhole
    rw [htokens] at henters
    exact ⟨true, target.schema, .of_whole henters hdocument rfl hregular⟩
  · rw [htokens] at henters
    have hids := Json.Pointer.ids_subset_of_walk? hwalk
    exact ⟨false, document, .of_pointer henters hdocument hpart hids rfl hregular⟩

end Entered

/-- In each document, the scope of a walk is determined by how it entered. -/
theorem passes_entered (t : Setting) (root : Json) :
    t.Passes (·.Sound t.resolver root) fun s schema =>
      ∃ u whole document, t.Entered root u whole document s schema where
  remember _ _ _ := fun ⟨u, whole, document, h⟩ =>
    ⟨u, whole, document, h.enters, h.found, h.drawn, h.nameless, h.inForce, h.regular⟩
  compile pattern _ hm := hm.compile pattern
  inside s members override own relieved := by
    rintro ⟨u, whole, document, h⟩ hown
    have hregular : (s.within members override own relieved).scopes.current.Regular := by
      rw [WalkState.current_within]
      exact regular_declaredScope h.regular hown
    exact {
      resolve := fun reference m _ hm =>
        ⟨(Resolver.sound_resolve hm.cache hregular reference).2, hm.compiled⟩
      schema := fun sub hinside => ⟨u, whole, document, h.inside hown hinside⟩
      target := fun reference target subject m _ hm hresolve _ =>
        ⟨target.url, Entered.target hregular hm hresolve subject⟩ }

end Setting

end SchemaCheck
