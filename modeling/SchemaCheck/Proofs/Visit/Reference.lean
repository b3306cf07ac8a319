import Mathlib.Data.List.Basic
import SchemaCheck.Proofs.Json.Part
import SchemaCheck.Proofs.Visit.Effect
import SchemaCheck.Proofs.Violation.Outline
import SchemaCheck.Proofs.Walk.Agree
import SchemaCheck.Validator

/-!
A reference excludes the keywords beside it. In a node with a reference only those members matter
that are read before the keywords run: the `id`, the flag of the ban and, while the ban is in force,
the lists of branches whose union is checked.
-/

namespace SchemaCheck

open Walk

theorem Walk.Lists.map_eq_self {p : Violation → Prop} {f : Violation → Violation}
    {x : Walk (List Violation)} (hx : Lists p x) (hf : ∀ v, p v → f v = v) :
    (do return (← x).map f) = x := by
  funext s
  rcases hrun : x s with ⟨e | vs, t⟩
  · rw [bind_of_error hrun]
  · have hsame : vs.map f = vs := by
      exact (List.map_congr_left fun v hv => hf v (hx s vs (by rw [hrun]) v hv)).trans vs.map_id
    rw [bind_of_ok hrun, hsame]
    rfl

namespace Setting

/-- The names of the members that matter beside a reference. -/
def besideReference : List String :=
  [refKeyword, "id", Ban.keyword]

/-- A node with a reference and only the members that matter. -/
def alone (effective : Bool) (members : Json.Members) : Json.Members :=
  members.filter fun member =>
    besideReference.contains member.1 ||
      effective && combinators.contains member.1 && (branchesOf members member.1).isSome

variable {t : Setting} {w : Walker} {subject : Subject} {members : Json.Members}
  {effective : Bool} {name : String}

theorem find?_alone (effective : Bool) (members : Json.Members) (name : String) :
    Json.Members.find? name (alone effective members) =
      if besideReference.contains name ||
          effective && combinators.contains name && (branchesOf members name).isSome then
        Json.Members.find? name members
      else none :=
  Json.Members.find?_filter
    (fun name => besideReference.contains name ||
      effective && combinators.contains name && (branchesOf members name).isSome) name members

theorem find?_alone_of_mem (h : name ∈ besideReference) :
    Json.Members.find? name (alone effective members) = Json.Members.find? name members := by
  rw [find?_alone, if_pos]
  rw [Bool.or_eq_true]
  exact .inl (by simpa using h)

/-- If the ban is in force, the lists of branches are kept. -/
theorem branchesOf_alone (h : name ∈ combinators) :
    branchesOf (alone true members) name = branchesOf members name := by
  have hname : besideReference.contains name = false := by
    simp only [combinators, List.mem_cons, List.not_mem_nil, or_false] at h
    rcases h with rfl | rfl <;> rfl
  have hcombines : combinators.contains name = true := by simpa using h
  cases hbranches : branchesOf members name with
  | none =>
      rw [branchesOf, find?_alone, hname, hbranches]
      simp
  | some branches =>
      rw [← hbranches, branchesOf, branchesOf, find?_alone, hname, hcombines, hbranches]
      rfl

theorem unions_alone (t : Setting) (effective : Bool) (members : Json.Members) :
    t.unions effective (alone effective members) = t.unions effective members := by
  unfold unions
  cases effective with
  | false => simp
  | true => rw [List.filterMap_congr fun name hname => branchesOf_alone hname]

/-- A reference passes on the violations of its target unchanged. -/
theorem applyKeyword_reference (hreference : t.registry.lookup? refKeyword = some Keyword.reference)
    (hw : ∀ reference, Lists Violation.Filled (w.refer reference subject)) (declared : Json)
    (members : Json.Members) :
    t.applyKeyword w refKeyword declared subject members =
      Keyword.reference w declared subject [] := by
  have hlists : Lists Violation.Filled (Keyword.reference w declared subject []) := by
    cases declared with
    | string reference => exact hw reference
    | _ => exact .fail _
  rw [applyKeyword, hreference]
  exact hlists.map_eq_self fun v hv => by rw [if_pos rfl, hv.fill_eq]

theorem applyMembers_alone (hreference : t.registry.lookup? refKeyword = some Keyword.reference)
    (hw : ∀ reference, Lists Violation.Filled (w.refer reference subject)) {reference : Json}
    (hmember : Json.Members.find? refKeyword members = some reference) (effective : Bool) :
    t.applyMembers w effective subject (alone effective members) =
      t.applyMembers w effective subject members := by
  have hkept : Json.Members.find? refKeyword (alone effective members) = some reference := by
    rw [find?_alone_of_mem (by decide), hmember]
  have hkeywords (checked : Bool) :
      t.applyKeywords w checked effective subject (alone effective members) =
        t.applyKeywords w checked effective subject members := by
    unfold applyKeywords
    rw [hkept, hmember]
    dsimp only
    rw [applyKeyword_reference hreference hw, applyKeyword_reference hreference hw]
  unfold applyMembers
  rw [unions_alone]
  dsimp only
  rw [hkeywords]

/-- Two nodes with the same scope and the same flag agree if they agree inside. -/
theorem agreed_applySchema {R : List Violation → List Violation → Prop} {others : Json.Members}
    {override : Option Bool} {s : WalkState}
    (hid : Json.Members.find? "id" others = Json.Members.find? "id" members)
    (hban : Json.Members.find? Ban.keyword others = Json.Members.find? Ban.keyword members)
    (h : Agrees R (t.applyMembers w (effectiveBan members override s.frame.ban) subject members)
      (t.applyMembers w (effectiveBan members override s.frame.ban) subject others)) :
    Agreed R (t.applySchema w subject (.object members) override s)
      (t.applySchema w subject (.object others) override s) := by
  have hscopes : declaredScope others s.scopes = declaredScope members s.scopes := by
    rw [declaredScope, declaredScope, hid]
  have hown : ownBan others = ownBan members := by rw [ownBan, ownBan, hban]
  cases hscope : declaredScope members s.scopes with
  | error e =>
      rw [applySchema_of_error subject override hscope,
        applySchema_of_error subject override (hscopes.trans hscope)]
      exact .error _ s
  | ok scope =>
      have hflag : effectiveBan others override s.frame.ban =
          effectiveBan members override s.frame.ban := by
        rw [effectiveBan, effectiveBan, hown]
      have hframe : frameOf others override s.frame.ban = frameOf members override s.frame.ban := by
        rw [frameOf, frameOf, hown]
      rw [applySchema_of_scope subject override hscope,
        applySchema_of_scope subject override (hscopes.trans hscope), hflag, hframe]
      exact Agrees.inNode scope _ h s

/-- A node with a reference has the same outcome as the node that keeps, of the members beside the
reference, only its `id`, its flag and, if the ban is in force there, its lists of branches: the
same violations in the same order, or the same failure, and the same final state. The registry may
contain any other keywords. -/
theorem visit_alone (t : Setting) (hreference : t.registry.lookup? refKeyword = some Keyword.reference)
    (depth : Nat) (subject : Subject) (members : Json.Members)
    (hmember : Json.Members.contains refKeyword members = true) (override : Option Bool)
    (s : WalkState) :
    t.visit depth subject (.object members) override s =
      t.visit depth subject
        (.object (alone (effectiveBan members override s.frame.ban) members)) override s := by
  cases depth with
  | zero => rfl
  | succ depth =>
      obtain ⟨reference, hfind⟩ := Option.isSome_iff_exists.mp hmember
      refine Agreed.eq (agreed_applySchema (find?_alone_of_mem (by decide))
        (find?_alone_of_mem (by decide)) ?_)
      rw [applyMembers_alone hreference (fun text => lists_filled_refer depth text subject) hfind]
      exact .refl (fun _ => rfl) _

/-- A reference beside a list of branches, a type and properties. With the ban in force the list is
kept and the type and the properties are dropped; otherwise all three are dropped. -/
theorem visit_alone_union :
    let reference : String × Json := ("$ref", .string "#/definitions/any")
    let properties : String × Json := ("properties", .object [("a", .object [])])
    let branches : String × Json := ("allOf", .array [.object [properties]])
    let members := [reference, branches, properties, ("type", .string "string")]
    let root : Json := .object [("definitions", .object [("any", .object [])])]
    let v := { Options.standard .offline with depth := 9 }.assemble root Validator.defaultBase
    let subject := Subject.root (.object [("b", .null)])
    let visit (schema : Json.Members) (config : Config) :=
      v.setting.visit 9 subject (.object schema) none (v.start config v.memory)
    visit members .standard = visit [reference, branches] .standard ∧
      visit members .permissive = visit [reference] .permissive := by
  intro reference properties branches members root v subject visit
  exact ⟨visit_alone v.setting rfl 9 subject members rfl none (v.start .standard v.memory),
    visit_alone v.setting rfl 9 subject members rfl none (v.start .permissive v.memory)⟩

/-- With the ban in force, the union of the branches beside a reference is checked and an undeclared
name is reported, although the target of the reference accepts every value. -/
theorem visit_union_beside_reference :
    let reference : String × Json := ("$ref", .string "#/definitions/any")
    let branch : Json := .object [("properties", .object [("a", .object [])])]
    let root : Json := .object [("definitions", .object [("any", .object [])])]
    let v := { Options.standard .offline with depth := 9 }.assemble root Validator.defaultBase
    let subject := Subject.root (.object [("b", .null)])
    let visit (schema : Json.Members) :=
      (v.setting.visit 9 subject (.object schema) none (v.start .standard v.memory)).1
    (visit [reference, ("allOf", .array [branch])]).map (fun violations =>
        violations.map fun v => (v.path, v.keyword)) = .ok [([], some Ban.keyword)] ∧
      (visit [reference]).map List.length = .ok 0 := by
  decide +kernel

end Setting

end SchemaCheck
