import SchemaCheck.Proofs.Keyword.Choice
import SchemaCheck.Proofs.Resolver.Rearranged

/-!
Walks over a schema and over the same schema with rearranged choices. If no reference leads into the
choices, the two walks apply nodes that differ in their choices only, in the same scopes and under
the same flags. If the first walk has a result, so does the second one, and both find a violation or
neither does. This requires that the first walk applies all branches of the choices, or that
failures of the second walk are excused.
-/

namespace SchemaCheck

open Walk
open Json (Rearranged)
open Violation (Concur)

/-- A computation whose outcome does not depend on the sound memory has one outcome for all of
them. -/
theorem Walk.exists_comesTo {α : Type} {r : Resolver} {root : Json} {s : WalkState} {x : Walk α}
    (h : Linked (.alike r root) s s x x) : ∃ result, ComesTo (·.Sound r root) s result x := by
  let fresh : Memory := ⟨r.seed root, []⟩
  have hfresh : fresh.Sound r root := ⟨Resolver.sound_seed r root, fun _ hentry => nomatch hentry⟩
  refine ⟨(x (s.remember fresh)).1, fun m hm => ?_⟩
  have hmeets := h m fresh ⟨hm, hfresh⟩
  obtain ⟨n, hn, hcontext⟩ := hmeets.leaves_of_alike
  exact ⟨n, hn, Prod.ext hmeets.of_alike.1 hcontext⟩

namespace Setting

variable {P : List Json → List Json → Prop} {t : Setting} {members others : Json.Members}

/-- The setting in which all branches of the marked lists are applied. -/
def thorough (t : Setting) (marked : Json → Bool) : Setting :=
  { t with registry := .thorough marked }

theorem thorough_never (ht : t.registry = .draft4) : t.thorough (fun _ => false) = t := by
  rw [thorough, Registry.thorough_never, ← ht]

theorem lookup?_thorough (t : Setting) (marked : Json → Bool) :
    (t.thorough marked).registry.lookup? "anyOf" = some (Keyword.thoroughAnyOf marked) :=
  Registry.lookup?_thorough marked "anyOf"

theorem lookup?_thorough_of_ne (ht : t.registry = .draft4) (marked : Json → Bool) {name : String}
    (hname : name ≠ "anyOf") :
    (t.thorough marked).registry.lookup? name = t.registry.lookup? name := by
  rw [ht]
  exact (Registry.lookup?_thorough marked name).trans (if_neg hname)

/-- No reference that a walk can follow leads into the choices of the root. -/
def Spares (t : Setting) (root : Json) : Prop :=
  ∀ scope members, t.Reachable root scope (.object members) →
    ∀ own, declaredScope members (.ofBase scope) = .ok own →
      ∀ reference, Names members reference → ∀ u, (own.getD scope).join reference = .ok u →
        t.resolver.Spares root u

/-! ### Nodes -/

theorem declaredScope_of_rearranged (h : members.Rearranged P others) (scopes : ScopeStack) :
    declaredScope members scopes = declaredScope others scopes := by
  unfold declaredScope
  rw [h.find?_eq (show "id" ≠ "anyOf" by decide)]

theorem ownBan_of_rearranged (h : members.Rearranged P others) : ownBan members = ownBan others := by
  unfold ownBan
  rw [h.find?_eq (show Ban.keyword ≠ "anyOf" by decide)]

theorem within_of_rearranged (h : members.Rearranged P others) (s : WalkState)
    (override : Option Bool) (own : Option Url) (relieved : Bool) :
    s.within members override own relieved = s.within others override own relieved := by
  unfold WalkState.within frameOf
  rw [ownBan_of_rearranged h]

theorem branchesOf_of_rearranged (h : members.Rearranged P others)
    (hP : ∀ l l', P l l' → ∀ branch, branch ∈ l ↔ branch ∈ l') (name : String) :
    Option.Rel (fun l l' => ∀ branch : Json, branch ∈ l ↔ branch ∈ l') (branchesOf members name)
      (branchesOf others name) := by
  unfold branchesOf
  rcases h.find? name with heq | ⟨-, l, l', hl, hfind, hfind'⟩
  · rw [heq]
    split
    · exact .none
    · exact .some fun _ => .rfl
    · exact .none
  · rw [hfind, hfind']
    have hsame := hP l l' hl
    match l, l' with
    | [], [] => exact .none
    | _ :: _, _ :: _ => exact .some hsame
    | [], branch :: _ => exact absurd ((hsame branch).mpr List.mem_cons_self) List.not_mem_nil
    | branch :: _, [] => exact absurd ((hsame branch).mp List.mem_cons_self) List.not_mem_nil

/-- Rearranged members have the same unions, up to the order of branches. -/
theorem unions_of_rearranged (h : members.Rearranged P others)
    (hP : ∀ l l', P l l' → ∀ branch, branch ∈ l ↔ branch ∈ l') (effective : Bool) :
    List.Forall₂ (fun l l' => ∀ branch : Json, branch ∈ l ↔ branch ∈ l')
      (t.unions effective members) (t.unions effective others) := by
  unfold unions
  split
  · refine List.rel_filterMap ?_ (List.forall₂_eq_eq_eq ▸ rfl)
    rintro name _ rfl
    exact branchesOf_of_rearranged h hP name
  · exact .nil

theorem inside_of_rearranged (h : members.Rearranged P others)
    (hP : ∀ l l', P l l' → ∀ branch, branch ∈ l ↔ branch ∈ l') {sub : Json}
    (hsub : t.Inside others sub) : t.Inside members sub := by
  obtain ⟨hnone, entry', hentry', hknown, hsub⟩ := hsub
  obtain ⟨entry, hentry, hpaired⟩ := h.exists_mem hentry'
  refine ⟨(h.find?_eq (show refKeyword ≠ "anyOf" by decide)).trans hnone, entry, hentry, ?_⟩
  cases hpaired with
  | same => exact ⟨hknown, hsub⟩
  | choices hl => exact ⟨hknown, (hP _ _ hl sub).mpr hsub⟩

theorem names_of_rearranged (h : members.Rearranged P others)
    (hP : ∀ l l', P l l' → ∀ branch, branch ∈ l ↔ branch ∈ l') {reference : String}
    (hnames : Names others reference) : Names members reference := by
  rcases hnames with hfind | ⟨name, hname, branches', hbranches', branch, hbranch, hreference⟩
  · exact .inl ((h.find?_eq (show refKeyword ≠ "anyOf" by decide)).trans hfind)
  · have hrel := branchesOf_of_rearranged h hP name
    rw [hbranches'] at hrel
    generalize hbranches : branchesOf members name = found at hrel
    cases hrel with
    | some hsame =>
        exact .inr ⟨name, hname, _, hbranches, branch, (hsame branch).mpr hbranch, hreference⟩

/-- Every schema that is reachable in the rearranged root corresponds to one that is reachable in
the root. -/
theorem exists_reachable {top top' : Json.Members} (htop : top.Rearranged P top')
    (hP : ∀ l l', P l l' → ∀ branch, branch ∈ l ↔ branch ∈ l') (hspares : t.Spares (.object top))
    {scope : Url} {schema' : Json} (h : t.Reachable (.object top') scope schema') :
    ∃ schema, t.Reachable (.object top) scope schema ∧ Rearranged P schema schema' := by
  induction h with
  | root => exact ⟨_, .root, .object htop⟩
  | inside _ hown hsub ih =>
      obtain ⟨schema, hreach, hschema⟩ := ih
      obtain ⟨members, rfl, hmembers⟩ := hschema.exists_object_left
      rw [← declaredScope_of_rearranged hmembers] at hown
      exact ⟨_, .inside hreach hown (inside_of_rearranged hmembers hP hsub), .same _⟩
  | target _ hown hreference hresolve ih =>
      obtain ⟨schema, hreach, hschema⟩ := ih
      obtain ⟨members, rfl, hmembers⟩ := hschema.exists_object_left
      rw [← declaredScope_of_rearranged hmembers] at hown
      rw [← hmembers.find?_eq (show refKeyword ≠ "anyOf" by decide)] at hreference
      obtain ⟨j, hfound, hj⟩ := Resolver.exists_resolve htop.flip
        (fun u hjoin => Resolver.spares_of_rearranged htop
          (hspares _ _ hreach _ hown _ (.inl hreference) u hjoin)) hresolve
      exact ⟨j, .target hreach hown hreference hfound, hj.flip⟩

/-- Choices that are spared are also spared after rearranging them. -/
theorem Spares.of_rearranged {top top' : Json.Members} (hspares : t.Spares (.object top))
    (htop : top.Rearranged P top')
    (hP : ∀ l l', P l l' → ∀ branch, branch ∈ l ↔ branch ∈ l') : t.Spares (.object top') := by
  intro scope members' hreach' own hown reference hnames u hjoin
  obtain ⟨schema, hreach, hschema⟩ := exists_reachable htop hP hspares hreach'
  obtain ⟨members, rfl, hmembers⟩ := hschema.exists_object_left
  rw [← declaredScope_of_rearranged hmembers] at hown
  exact Resolver.spares_of_rearranged htop
    (hspares scope members hreach own hown reference (names_of_rearranged hmembers hP hnames) u hjoin)

/-! ### References -/

/-- Two runs over the two roots: if the first one has a result, so does the second one, unless it is
excused. -/
abbrev across (r : Resolver) (root other : Json) (excused : Prop) : Link :=
  .results (·.Sound r root) (·.Sound r other) excused

theorem regular_across (r : Resolver) (root other : Json) (excused : Prop) :
    Regular (across r root other excused) :=
  regular_results (Memory.versed_sound r root) (Memory.versed_sound r other)

variable {r : Resolver} {top top' : Json.Members} {excused : Prop} {w w' : Walker} {s : WalkState}
variable {subject : Subject} {reference : String}

/-- The first target is the one for a new cache, and the second target corresponds to it. -/
structure Stands (P : List Json → List Json → Prop) (r : Resolver) (root : Json) (scope : Url)
    (reference : String) (target target' : Target) : Prop where
  url : target'.url = target.url
  schema : Rearranged P target.schema target'.schema
  fresh : ((r.resolve reference (.ofBase scope)).run (r.seed root)).1 = .ok target

theorem pairs_resolve (h : top.Rearranged P top') (hw : w.resolver = r) (hw' : w'.resolver = r)
    (hs : s.scopes.Regular)
    (hspares : ∀ u, s.scopes.current.join reference = .ok u → r.Spares (.object top) u) :
    Pairs (across r (.object top) (.object top') excused) s s
      (Stands P r (.object top) s.scopes.current reference) (w.resolve reference)
      (w'.resolve reference) := by
  rintro m n ⟨hm, hn⟩
  obtain ⟨hsame, hlearnt⟩ := Resolver.sound_resolve hm.cache hs.current reference
  obtain ⟨hsame', hlearnt'⟩ := Resolver.sound_resolve hn.cache hs.current reference
  rw [resolve_apply, resolve_apply, hw, hw']
  show Paired _ s s _ (((r.resolve reference s.scopes).run m.cache).1.mapError .schema, s.remember _)
    (((r.resolve reference s.scopes).run n.cache).1.mapError .schema, s.remember _)
  rw [hsame, hsame']
  cases hfresh : ((r.resolve reference (.ofBase s.scopes.current)).run
      (r.seed (.object top))).1 with
  | error e => exact .left trivial
  | ok target =>
      obtain ⟨schema', hother, hschema⟩ := Resolver.exists_resolve h hspares hfresh
      rw [hother]
      exact .ok ⟨rfl, hschema, hfresh⟩ ⟨⟨hlearnt, hm.compiled⟩, hlearnt', hn.compiled⟩

theorem pairs_refer (h : top.Rearranged P top') (hw : w.resolver = r) (hw' : w'.resolver = r)
    (hcycles : w'.findsCycles = w.findsCycles) (hs : s.scopes.Regular)
    (hspares : ∀ u, s.scopes.current.join reference = .ok u → r.Spares (.object top) u)
    (hvisit : ∀ target target', Stands P r (.object top) s.scopes.current reference target target' →
      Pairs (across r (.object top) (.object top') excused) (s.jump target subject)
        (s.jump target subject) Concur (w.visit subject target.schema s.frame.refOverride)
        (w'.visit subject target'.schema s.frame.refOverride)) :
    Pairs (across r (.object top) (.object top') excused) s s Concur (w.refer reference subject)
      (w'.refer reference subject) := by
  refine (pairs_resolve h hw hw' hs hspares).bind fun target target' hstands => ?_
  exact pairs_follow hcycles hstands.url (hvisit target target' hstands)

/-- Corresponding branches stand for schemas with the same declarations. -/
theorem pairs_branchTarget (h : top.Rearranged P top') (hw : w.resolver = r)
    (hw' : w'.resolver = r) (hs : s.scopes.Regular) {branch : Json}
    (hspares : ∀ reference, (branch.get? "$ref").bind Json.string? = some reference →
      ∀ u, s.scopes.current.join reference = .ok u → r.Spares (.object top) u) :
    Pairs (across r (.object top) (.object top') excused) s s Ban.DeclareAlike
      (Ban.branchTarget w branch) (Ban.branchTarget w' branch) := by
  unfold Ban.branchTarget
  cases hreference : (branch.get? "$ref").bind Json.string? with
  | none => exact .pure fun _ _ => rfl
  | some reference =>
      refine (pairs_resolve h hw hw' hs (hspares reference hreference)).map ?_
      intro target target' hstands name hname
      unfold Ban.declaredKeys
      rw [hstands.schema.get?_eq fun heq => absurd (heq ▸ hname) (by decide)]

/-! ### Keywords -/

variable {marked marked' : Json → Bool} {name : String} {declared : Json}

theorem pairs_applyKeyword {L : Link} {k k' : Keyword} {declared' : Json}
    (hlookup : (t.thorough marked).registry.lookup? name = some k)
    (hlookup' : (t.thorough marked').registry.lookup? name = some k')
    (h : Pairs L s s Concur (k w declared subject members) (k' w' declared' subject others)) :
    Pairs L s s Concur ((t.thorough marked).applyKeyword w name declared subject members)
      ((t.thorough marked').applyKeyword w' name declared' subject others) := by
  unfold applyKeyword
  rw [hlookup, hlookup']
  exact h.map fun _ _ => Concur.map

/-- The two lists have the same branches, in any order, and the first run applies all of them or
failures of the second one are excused. -/
def Reorders (excused : Prop) (marked : Json → Bool) (branches others : List Json) : Prop :=
  (∀ branch, branch ∈ branches ↔ branch ∈ others) ∧ (excused ∨ marked (.array branches) = true)

variable {I J : Memory → Prop}

/-- Corresponding members of the two nodes have corresponding results. -/
theorem pairs_applyEntry (ht : t.registry = .draft4) (hL : Regular (.results I J excused))
    (hmarks : ∀ declared, marked' declared = true → marked declared = true)
    (halike : members.Alike others) {entry entry' : String × Json}
    (hentry : Json.Members.Paired (Reorders excused marked) entry entry')
    (href : entry.1 ≠ refKeyword) (hban : entry.1 ≠ Ban.keyword)
    (hleft : ∀ branch, ∃ result, ComesTo I s result (w.applyBranch subject branch))
    (hright : ∀ branch, ∃ result, ComesTo J s result (w'.applyBranch subject branch))
    (hw : t.registry.contains entry.1 → Walker.Pairs (.results I J excused) s s Concur id subject
      (Keyword.Placed entry.1 entry.2) w w') :
    Pairs (.results I J excused) s s Concur
      ((t.thorough marked).applyKeyword w entry.1 entry.2 subject members)
      ((t.thorough marked').applyKeyword w' entry'.1 entry'.2 subject others) := by
  have hanyOf := t.lookup?_thorough marked
  have hanyOf' := t.lookup?_thorough marked'
  have hknown : t.registry.contains "anyOf" := by
    rw [ht]
    rfl
  cases hentry with
  | choices hreorders =>
      refine pairs_applyKeyword hanyOf hanyOf' ?_
      exact Keyword.pairs_thoroughAnyOf hreorders.1 hreorders.2 hleft hright
        fun branch hbranch => (hw hknown).branch branch ⟨hbranch, hbranch⟩
  | same entry =>
      obtain ⟨name, declared⟩ := entry
      by_cases hname : name = "anyOf"
      · subst hname
        exact pairs_applyKeyword hanyOf hanyOf'
          (Keyword.pairs_thoroughAnyOf_same hL (hmarks declared) hleft hright (hw hknown))
      · have hlookup := lookup?_thorough_of_ne ht marked hname
        have hlookup' := lookup?_thorough_of_ne ht marked' hname
        cases hfound : t.registry.lookup? name with
        | none =>
            unfold applyKeyword
            rw [hlookup, hlookup', hfound]
            exact .pure (.refl [])
        | some k =>
            refine pairs_applyKeyword (hlookup.trans hfound) (hlookup'.trans hfound) ?_
            exact Keyword.pairs_of_alike (ht ▸ hfound) href hban hL Violation.likeness_concur halike
              (hw (by rw [Registry.contains, hfound]; rfl))

/-- The ban reports a violation in both nodes or in neither. -/
theorem pairs_applyBan (ht : t.registry = .draft4) (hL : Regular (.results I J excused))
    (halike : members.Alike others) (checked effective : Bool) :
    Pairs (.results I J excused) s s Concur
      ((t.thorough marked).applyBan w checked effective subject members)
      ((t.thorough marked').applyBan w' checked effective subject others) := by
  have hofDraft : t.registry = .ofDraft .draft4 := ht
  have hban (marked : Json → Bool) :
      (t.thorough marked).registry.lookup? Ban.keyword = some Ban.onObject :=
    (lookup?_thorough_of_ne ht marked (by decide)).trans (lookup?_ban hofDraft)
  unfold applyBan
  split
  · exact .pure (.refl [])
  · refine pairs_applyKeyword (hban marked) (hban marked') ?_
    have hsame := ((Ban.reaches_onObject "").alone (.bool effective) subject members).linked_none
      (s := s) (t := s) hL w w'
    have hagrees := Keyword.agrees_onObject w' (.bool effective) subject halike
    exact hsame.pairs.agrees_right hagrees fun vs _ ws heq hlike => heq ▸ .of_same hlike

/-- The keywords of the two nodes have corresponding results, one by one. -/
theorem pairs_applyKeywords (ht : t.registry = .draft4) (hL : Regular (.results I J excused))
    (hmarks : ∀ declared, marked' declared = true → marked declared = true)
    (h : members.Rearranged (Reorders excused marked) others) (checked effective : Bool)
    (hleft : ∀ branch, ∃ result, ComesTo I s result (w.applyBranch subject branch))
    (hright : ∀ branch, ∃ result, ComesTo J s result (w'.applyBranch subject branch))
    (hw : Walker.Pairs (.results I J excused) s s Concur id subject (t.Inside members) w w')
    (hrefer : ∀ reference, Json.Members.find? refKeyword members = some (.string reference) →
      Pairs (.results I J excused) s s Concur (w.refer reference subject)
        (w'.refer reference subject)) :
    Pairs (.results I J excused) s s Concur
      ((t.thorough marked).applyKeywords w checked effective subject members)
      ((t.thorough marked').applyKeywords w' checked effective subject others) := by
  unfold applyKeywords
  rw [← h.find?_eq (show refKeyword ≠ "anyOf" by decide)]
  cases hreference : Json.Members.find? refKeyword members with
  | some declared =>
      have hofDraft : t.registry = .ofDraft .draft4 := ht
      have hfound (marked : Json → Bool) :
          (t.thorough marked).registry.lookup? refKeyword = some Keyword.reference :=
        (lookup?_thorough_of_ne ht marked (by decide)).trans (lookup?_reference hofDraft)
      refine pairs_applyKeyword (hfound marked) (hfound marked') ?_
      cases declared with
      | string reference => exact hrefer reference hreference
      | _ => exact fun _ _ _ => .left trivial
  | none =>
      refine (pairs_applyBan ht hL h.alike checked effective).bind fun _ _ hplain => ?_
      refine .map (.collect_forall₂ Violation.likeness_concur ?_) fun _ _ hothers =>
        hplain.append hothers
      have hentries := (List.forall₂_and_left members others).mpr ⟨fun entry hentry => hentry, h⟩
      refine hentries.imp fun entry entry' ⟨hmem, hentry⟩ => ?_
      have hname : entry'.1 = entry.1 := by
        cases hentry <;> rfl
      dsimp only
      rw [hname]
      split
      · exact .pure (.refl [])
      next hban =>
        have href : entry.1 ≠ refKeyword := fun heq =>
          Json.Members.find?_eq_none (heq ▸ hreference) hmem
        have happly := pairs_applyEntry ht hL hmarks h.alike hentry href hban hleft hright fun hknown =>
          hw.mono fun sub hsub => ⟨hreference, entry, hmem, hknown, hsub.2⟩
        rwa [hname] at happly

/-! ### Walks -/

variable {schema schema' : Json}

/-- The unions of the two nodes have corresponding results. -/
theorem pairs_unions (htop : top.Rearranged P top')
    (hw : w.Steady (.alike t.resolver (.object top)) t.resolver)
    (hw' : w'.Steady (.alike t.resolver (.object top')) t.resolver)
    (h : members.Rearranged (Reorders excused marked) others) (hs : s.scopes.Regular)
    (hspares : ∀ reference, Names members reference →
      ∀ u, s.scopes.current.join reference = .ok u → t.resolver.Spares (.object top) u)
    (effective : Bool) :
    Pairs (across t.resolver (.object top) (.object top') excused) s s Concur
      (Walk.collect (Ban.onBranches w effective subject) (t.unions effective members))
      (Walk.collect (Ban.onBranches w' effective subject) (t.unions effective others)) := by
  have hunions := (List.forall₂_and_left (t.unions effective members) _).mpr
    ⟨fun branches hmem => hmem, unions_of_rearranged h (fun _ _ hP => hP.1) effective⟩
  refine .collect_forall₂ Violation.likeness_concur (hunions.imp ?_)
  rintro branches branches' ⟨hmem, hsame⟩
  obtain ⟨name, hname, hbranches⟩ := mem_unions hmem
  have hclient (branch : Json) : Client fun w => Ban.branchTarget w branch :=
    (Ban.program_branchTarget (r := .free subject) fun _ _ => trivial).client
  refine Ban.pairs_onBranches (regular_across _ _ _ _) hsame
    (fun branch => exists_comesTo ((hclient branch).alike hw hs))
    (fun branch => exists_comesTo ((hclient branch).alike hw' hs)) (fun branch hbranch => ?_) _ _
  exact pairs_branchTarget htop hw.resolver hw'.resolver hs fun reference hreference =>
    hspares reference (.inr ⟨name, hname, branches, hbranches, branch, hbranch, hreference⟩)

/-- Inside the nodes, keywords apply reachable schemas and follow references to corresponding
targets. -/
theorem pairs_within (ht : t.registry = .draft4)
    (hmarks : ∀ declared, marked' declared = true → marked declared = true)
    (htop : top.Rearranged (Reorders excused marked) top') (hspares : t.Spares (.object top))
    (hs : s.scopes.Regular)
    (hw : w.Steady (.alike t.resolver (.object top)) t.resolver)
    (hw' : w'.Steady (.alike t.resolver (.object top')) t.resolver)
    (hcycles : w'.findsCycles = w.findsCycles)
    (hreach : t.Reachable (.object top) s.scopes.current (.object members))
    (h : members.Rearranged (Reorders excused marked) others)
    (hvisit : ∀ {schema schema' : Json} {s : WalkState}, s.scopes.Regular →
      t.Reachable (.object top) s.scopes.current schema →
      Rearranged (Reorders excused marked) schema schema' → ∀ subject override,
        Pairs (across t.resolver (.object top) (.object top') excused) s s Concur
          (w.visit subject schema override) (w'.visit subject schema' override))
    {override : Option Bool} {own : Option Url} (hown : declaredScope members s.scopes = .ok own)
    (effective : Bool) :
    PairedNodes (across t.resolver (.object top) (.object top') excused) Concur (t.thorough marked)
      (t.thorough marked') w w' effective subject members others
      (s.within members override own false) (s.within others override own false) := by
  rw [← within_of_rearranged h]
  have hinner (relieved : Bool) : (s.within members override own relieved).scopes.Regular :=
    regular_within hs hown relieved
  have hdeclared : declaredScope members (.ofBase s.scopes.current) = .ok own :=
    (declaredScope_congr rfl).trans hown
  have hspared (relieved : Bool) (reference : String) (hnames : Names members reference) (u : Url)
      (hjoin : (s.within members override own relieved).scopes.current.join reference = .ok u) :
      t.resolver.Spares (.object top) u := by
    rw [WalkState.current_within] at hjoin
    exact hspares _ _ hreach own hdeclared reference hnames u hjoin
  refine ⟨?_, pairs_unions htop hw hw' h (hinner false) (hspared false) _, fun relieved _ => ?_⟩
  · have hunions := unions_of_rearranged (t := t) h (fun _ _ hP => hP.1) effective
    show (t.unions effective others).isEmpty = (t.unions effective members).isEmpty
    generalize t.unions effective members = lists, t.unions effective others = lists' at hunions
    cases hunions <;> rfl
  · have hinside {sub : Json} (hsub : t.Inside members sub) :
        t.Reachable (.object top) (s.within members override own relieved).scopes.current sub := by
      rw [WalkState.current_within]
      exact .inside hreach hdeclared hsub
    refine pairs_applyKeywords (s := s.within members override own relieved) ht
      (regular_across _ _ _ _) hmarks h relieved _
      (fun branch => exists_comesTo ((Client.branch subject branch).alike hw (hinner relieved)))
      (fun branch => exists_comesTo ((Client.branch subject branch).alike hw' (hinner relieved)))
      ?_ fun reference hreference => ?_
    · exact {
        descend := fun inner sub _ hsub =>
          hvisit (hinner relieved) (hinside hsub) (.same sub) inner none
        branch := fun sub hsub m n hmem =>
          hvisit (hinner relieved) (hinside hsub) (.same sub) subject _ m n hmem }
    · refine pairs_refer htop hw.resolver hw'.resolver hcycles (hinner relieved)
        (hspared relieved reference (.inl hreference)) fun target target' hstands => ?_
      have htarget := Url.join_regular (hinner relieved).current
        (Resolver.resolveUrl_of_resolve hstands.fresh).1
      have hfresh := hstands.fresh
      rw [WalkState.current_within] at hfresh
      have hnext : t.Reachable (.object top)
          ((s.within members override own relieved).jump target subject).scopes.current
          target.schema := .target hreach hdeclared hreference hfresh
      exact hvisit ((hinner relieved).push htarget) hnext hstands.schema subject _

/-- If the walk over the schema has a result, so does the walk over the rearranged schema, and both
find a violation or neither does. -/
theorem pairs_visit (ht : t.registry = .draft4)
    (hmarks : ∀ declared, marked' declared = true → marked declared = true)
    (htop : top.Rearranged (Reorders excused marked) top') (hspares : t.Spares (.object top))
    (hs : s.scopes.Regular)
    (hreach : t.Reachable (.object top) s.scopes.current schema)
    (h : Rearranged (Reorders excused marked) schema schema') (depth : Nat) (subject : Subject)
    (override : Option Bool) :
    Pairs (across t.resolver (.object top) (.object top') excused) s s Concur
      ((t.thorough marked).visit depth subject schema override)
      ((t.thorough marked').visit depth subject schema' override) := by
  induction depth generalizing s schema schema' subject override with
  | zero => exact fun _ _ _ => .left trivial
  | succ depth ih =>
      have hlawful (marked : Json → Bool) : (t.thorough marked).registry.Lawful :=
        Registry.lawful_thorough marked
      have hsteady := steady_visit (hlawful marked) (.object top) depth
      have hsteady' := steady_visit (hlawful marked') (.object top') depth
      cases h with
      | object hmembers =>
          refine pairs_applySchema_across Concur.append (declaredScope_of_rearranged hmembers _) ?_
            (fun _ _ => trivial) fun own hown => ?_
          · rw [effectiveBan, effectiveBan, ownBan_of_rearranged hmembers]
          · exact pairs_within ht hmarks htop hspares hs hsteady hsteady' rfl hreach hmembers ih hown _
      | choices _ => exact .pure (.refl [])
      | same =>
          cases schema with
          | object members =>
              refine pairs_applySchema_across Concur.append rfl rfl (fun _ _ => trivial)
                fun own hown => ?_
              exact pairs_within ht hmarks htop hspares hs hsteady hsteady' rfl hreach (.refl members) ih
                hown _
          | _ => exact .pure (.refl [])

end Setting

end SchemaCheck
