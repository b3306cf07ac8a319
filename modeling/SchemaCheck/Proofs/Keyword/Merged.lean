import Mathlib.Data.List.Sort
import SchemaCheck.Proofs.Keyword.Union
import SchemaCheck.Proofs.Regex.Compiles
import SchemaCheck.Proofs.Validator.History

/-!
The ban on a union of branches compared with the ban on one schema. The declarations of the branches
can be merged into one schema, and the check of the union reports for an object what the plain check
reports under the merged schema. There are two exceptions. If no branch declares anything, the plain
check reports nothing while the check of the union does; and several patterns joined to one need not
match what each of them matches.
-/

namespace SchemaCheck.Ban

open Walk

theorem nameSet_nameSet (names : List String) : nameSet (nameSet names) = nameSet names :=
  List.Pairwise.eq_of_mem_iff (ascending_nameSet _) (ascending_nameSet _) fun _ => mem_nameSet

/-- Some of the schemas declares members under `name`. -/
def declares (name : String) (targets : List Json) : Bool :=
  targets.any fun target => ((target.get? name).bind Json.object?).isSome

/-- All keys that the schemas declare under `name`. -/
def declaredSet (name : String) (targets : List Json) : List String :=
  nameSet (targets.flatMap (declaredKeys name))

/-- The member `name` of the merged schema, present if any of the schemas has one. Only its keys
matter, not their values. -/
def mergedMember (name : String) (targets : List Json) : Json.Members :=
  if declares name targets then
    [(name, .object ((declaredSet name targets).map fun key => (key, .object [])))]
  else []

/-- A schema that declares the properties and the patterns of all the schemas. -/
def merged (targets : List Json) : Json.Members :=
  mergedMember "patternProperties" targets ++ mergedMember "properties" targets

/-- The names that are neither declared by the schemas nor matched by their patterns. -/
def uncovered (targets : List Json) (matched : String → Bool) (names : List String) : List String :=
  nameSet <| names.filter fun name =>
    !(declaredSet "properties" targets).contains name && !matched name

/-- What the check of branches reports for a list of uncovered names. -/
def complaint (effective : Bool) (value : Json) (branches : List Json)
    (names patterns : List String) : List Violation :=
  if names.isEmpty then []
  else
    [((Violation.ofMessage (complaintText names patterns (.array branches))).fill keyword
      (.bool effective) value (.array branches)).underSchema (.key keyword)]

/-- If each pattern compiles, their alternation compiles too, and it matches a name iff one of the
patterns does. -/
def Joins (patterns names : List String) : Prop :=
  patterns ≠ [] →
    Option.Rel (fun union regexes => ∀ name ∈ names, union.isMatch name = regexes.any (·.isMatch name))
      (Regex.parse? (String.intercalate "|" patterns)) (patterns.mapM Regex.parse?)

theorem joins_singleton (pattern : String) (names : List String) : Joins [pattern] names := by
  intro _
  have hrel := Regex.matches_each_singleton pattern
  generalize Regex.parse? (String.intercalate "|" [pattern]) = union at hrel ⊢
  generalize [pattern].mapM Regex.parse? = regexes at hrel ⊢
  cases hrel with
  | none => exact .none
  | some hmatch => exact .some fun name _ => hmatch name

/-- Two checks of one value have corresponding results, the first for branches and the second for a
schema: no violation, one violation each with the same names and the same patterns, or a pattern
that does not compile. -/
inductive Agree (branches : List Json) (schema : Json) :
    Except Failure (List Violation) → Except Failure (List Violation) → Prop
  | silent : Agree branches schema (.ok []) (.ok [])
  | report {names patterns : List String} {v v' : Violation} :
      names ≠ [] → v.message = complaintText names patterns (.array branches) →
      v'.message = complaintText names patterns schema → Agree branches schema (.ok [v]) (.ok [v'])
  | failed {pattern pattern' : String} :
      Agree branches schema (.error (.schema (.invalidPattern pattern)))
        (.error (.schema (.invalidPattern pattern')))

section Merged

variable {name : String} {targets : List Json}

theorem declaredSet_eq_nil (h : declares name targets = false) : declaredSet name targets = [] := by
  have hnone : targets.flatMap (declaredKeys name) = [] := by
    refine List.flatMap_eq_nil_iff.mpr fun target htarget => ?_
    have htarget := List.any_eq_false.mp h target htarget
    unfold declaredKeys
    split
    next members hget => simp [hget, Json.object?] at htarget
    next => rfl
  rw [declaredSet, hnone]
  rfl

theorem find?_merged (hname : name ∈ ["patternProperties", "properties"]) :
    Json.Members.find? name (merged targets) =
      if declares name targets then
        some (.object ((declaredSet name targets).map fun key => (key, .object [])))
      else none := by
  simp only [List.mem_cons, List.not_mem_nil, or_false] at hname
  unfold merged mergedMember
  rcases hname with rfl | rfl
  · cases declares "patternProperties" targets <;> cases declares "properties" targets <;>
      simp [Json.Members.find?]
  · cases declares "patternProperties" targets <;> cases declares "properties" targets <;>
      simp [Json.Members.find?]

/-- The keys of a merged member are all the keys that the schemas declare under its name. -/
theorem keys_merged (hname : name ∈ ["patternProperties", "properties"]) :
    Json.Members.keys ((Keyword.declaredMembers name (merged targets)).getD []) =
      declaredSet name targets := by
  unfold Keyword.declaredMembers
  rw [find?_merged hname]
  split
  next =>
    show List.map (·.1) (List.map (fun key => (key, Json.object [])) (declaredSet name targets)) = _
    rw [List.map_map]
    exact List.map_id' _
  next h =>
    rw [declaredSet_eq_nil (Bool.not_eq_true _ ▸ h)]
    rfl

theorem contains_merged (hname : name ∈ ["patternProperties", "properties"]) :
    Json.Members.contains name (merged targets) = declares name targets := by
  unfold Json.Members.contains
  rw [find?_merged hname]
  cases declares name targets <;> rfl

theorem contains_eq_keys (key : String) (members : Json.Members) :
    Json.Members.contains key members = (Json.Members.keys members).contains key := by
  induction members with
  | nil => rfl
  | cons first rest ih =>
      obtain ⟨first, value⟩ := first
      rw [show Json.Members.keys ((first, value) :: rest) = first :: Json.Members.keys rest from rfl,
        List.contains_cons, ← ih]
      show (if first = key then some value else Json.Members.find? key rest).isSome =
        (key == first || (Json.Members.find? key rest).isSome)
      by_cases heq : first = key
      · simp [heq]
      · simp [heq, Ne.symm heq]

theorem uncovered_congr {matched matched' : String → Bool} {names : List String}
    (h : ∀ name ∈ names, matched name = matched' name) :
    uncovered targets matched names = uncovered targets matched' names :=
  congrArg nameSet (List.filter_congr fun name hname => by rw [h name hname])

end Merged

section Checks

variable {w : Walker} {s u : WalkState} {subject : Subject} {object : Json.Members}
variable {branches targets : List Json} {effective : Bool}

/-- Resolving the targets of the branches compiles no pattern. -/
theorem answers_targets (w : Walker) (s : WalkState) (branches : List Json) :
    Answers Memory.Compiled s (fun _ => True) (Walk.each (branchTarget w) branches) := by
  refine .mono (.each (r := fun _ _ => True) fun branch _ => ?_) fun _ _ => trivial
  unfold branchTarget
  split
  next reference _ =>
    refine .map (p := fun _ => True) (fun m hm target after hrun => ?_) fun _ _ => trivial
    exact ⟨trivial,
      { m with cache := ((w.resolver.resolve reference s.scopes).run m.cache).2 }, hm,
      (congrArg Prod.snd hrun).symm⟩
  next => exact .pure trivial

/-- The check of a union on an object, once the targets of its branches are known. -/
theorem onBranches_apply (hobject : subject.value = .object object)
    (hrun : Walk.each (branchTarget w) branches s = (.ok targets, u)) :
    (onBranches w effective subject branches s).1 =
      (alternation (declaredSet "patternProperties" targets) u).1.map fun union =>
        complaint effective subject.value branches
          (uncovered targets (fun name => (union.map (·.isMatch name)).getD false)
            (Json.Members.keys object))
          (declaredSet "patternProperties" targets) := by
  unfold onBranches
  rw [hobject]
  dsimp only [candidates?]
  simp only [bind_of_ok hrun, message_eq]
  exact bind_ite_fst ..

/-- Compiling patterns in turn gives all regexes, or the first pattern that does not compile. -/
theorem each_regex_fst (hs : s.memory.Compiled) (patterns : List String) :
    (∃ regexes, patterns.mapM Regex.parse? = some regexes ∧
        (Walk.each Walk.regex patterns s).1 = .ok regexes) ∨
      (patterns.mapM Regex.parse? = none ∧
        ∃ pattern, (Walk.each Walk.regex patterns s).1 =
          .error (.schema (.invalidPattern pattern))) := by
  induction patterns generalizing s with
  | nil => exact .inl ⟨[], rfl, rfl⟩
  | cons pattern rest ih =>
      have hfirst := regex_apply pattern s
      rw [Memory.compile_of_compiled hs] at hfirst
      unfold Walk.each
      rw [List.mapM_cons]
      cases hparse : Regex.parse? pattern with
      | none =>
          rw [hparse] at hfirst
          rw [bind_of_error hfirst]
          exact .inr ⟨rfl, pattern, rfl⟩
      | some r =>
          rw [hparse] at hfirst
          rw [bind_of_ok hfirst, bind_fst (r :: ·) fun _ _ => rfl]
          rcases ih (s := s.remember (s.memory.compile pattern).2)
            (Memory.compiled_compile hs pattern) with
            ⟨regexes, hrest, hrun⟩ | ⟨hrest, other, hrun⟩
          · rw [hrest, hrun]
            exact .inl ⟨r :: regexes, rfl, rfl⟩
          · rw [hrest, hrun]
            exact .inr ⟨rfl, other, rfl⟩

theorem alternation_apply (hu : u.memory.Compiled) {patterns : List String} (h : patterns ≠ []) :
    (alternation patterns u).1 =
      (Regex.parse? (String.intercalate "|" patterns)).elim
        (.error (.schema (.invalidPattern (String.intercalate "|" patterns))))
        fun union => .ok (some union) := by
  unfold alternation
  rw [if_neg fun hempty => h (List.isEmpty_iff.mp hempty)]
  refine (bind_fst some (fun _ _ => rfl) u).trans ?_
  rw [regex_apply, Memory.compile_of_compiled hu]
  cases Regex.parse? (String.intercalate "|" patterns) <;> rfl

theorem additionalKeys_merged (object : Json.Members) (targets : List Json) (s : WalkState) :
    (Keyword.additionalKeys object (merged targets) s).1 =
      (Walk.each Walk.regex (declaredSet "patternProperties" targets) s).1.map fun regexes =>
        (Json.Members.keys object).filter fun name =>
          !(declaredSet "properties" targets).contains name && !regexes.any (·.isMatch name) := by
  unfold Keyword.additionalKeys
  simp only [contains_eq_keys]
  rw [keys_merged (by simp), keys_merged (by simp)]
  exact bind_fst _ (fun _ _ => rfl) s

/-- The plain check of an object under the merged schema. -/
theorem onObject_merged (hobject : subject.value = .object object)
    (hdeclares : declares "properties" targets ∨ declares "patternProperties" targets) :
    (onObject w (.bool true) subject (merged targets) s).1 =
      (Walk.each Walk.regex (declaredSet "patternProperties" targets) s).1.map fun regexes =>
        let extras := uncovered targets (fun name => regexes.any (·.isMatch name))
          (Json.Members.keys object)
        if extras.isEmpty then []
        else
          [.ofMessage (complaintText extras (declaredSet "patternProperties" targets)
            (.object (merged targets)))] := by
  simp only [← message_eq]
  unfold onObject
  rw [hobject]
  dsimp only
  rw [contains_merged (by simp), contains_merged (by simp), if_pos hdeclares, keys_merged (by simp),
    declaredSet, nameSet_nameSet, ← declaredSet]
  refine (bind_ite_fst ..).trans ?_
  rw [additionalKeys_merged]
  cases (Walk.each Walk.regex (declaredSet "patternProperties" targets) s).1 <;> rfl

theorem agree_reports (schema : Json) (names patterns : List String) :
    Agree branches schema (.ok (complaint effective subject.value branches names patterns))
      (.ok (if names.isEmpty then [] else [.ofMessage (complaintText names patterns schema)])) := by
  unfold complaint
  split
  next => exact .silent
  next hsome =>
    exact .report (fun hnil => hsome (List.isEmpty_iff.mpr hnil)) rfl rfl

/-- If the patterns can be joined, the check of the branches agrees with the plain check under the
merged schema. -/
theorem agree_of_joins (hs : s.memory.Compiled) (hu : u.memory.Compiled)
    (hjoins : Joins (declaredSet "patternProperties" targets) (Json.Members.keys object)) :
    Agree branches (.object (merged targets))
      ((alternation (declaredSet "patternProperties" targets) u).1.map fun union =>
        complaint effective subject.value branches
          (uncovered targets (fun name => (union.map (·.isMatch name)).getD false)
            (Json.Members.keys object))
          (declaredSet "patternProperties" targets))
      ((Walk.each Walk.regex (declaredSet "patternProperties" targets) s).1.map fun regexes =>
        let extras := uncovered targets (fun name => regexes.any (·.isMatch name))
          (Json.Members.keys object)
        if extras.isEmpty then []
        else
          [.ofMessage (complaintText extras (declaredSet "patternProperties" targets)
            (.object (merged targets)))]) := by
  by_cases hpatterns : declaredSet "patternProperties" targets = []
  · rw [hpatterns]
    exact agree_reports ..
  rw [alternation_apply hu hpatterns]
  have hrel := hjoins hpatterns
  generalize Regex.parse? (String.intercalate "|" (declaredSet "patternProperties" targets)) = union
    at hrel ⊢
  rcases each_regex_fst hs (declaredSet "patternProperties" targets) with
    ⟨regexes, hregexes, hrun⟩ | ⟨hregexes, pattern, hrun⟩
  · rw [hregexes] at hrel
    cases hrel with
    | @some union _ hmatch =>
        rw [hrun]
        dsimp only [Except.map]
        rw [← uncovered_congr hmatch]
        exact agree_reports ..
  · rw [hregexes] at hrel
    cases hrel
    rw [hrun]
    exact .failed

/-- The check of branches agrees with the plain check under the merged schema. If one of the
branches declares anything, both checks have the same result on every object for whose names the
patterns can be joined. If none does, the plain check reports nothing and that of the branches
reports every name. -/
theorem onBranches_agrees_merged (w w' : Walker) (s t : WalkState) (hs : s.memory.Compiled)
    (ht : t.memory.Compiled) (effective : Bool) (subject : Subject) (object : Json.Members)
    (hobject : subject.value = .object object) (branches targets : List Json)
    (htargets : (Walk.each (branchTarget w) branches s).1 = .ok targets) :
    ((declares "properties" targets ∨ declares "patternProperties" targets) →
      Joins (declaredSet "patternProperties" targets) (Json.Members.keys object) →
        Agree branches (.object (merged targets)) (onBranches w effective subject branches s).1
          (onObject w' (.bool true) subject (merged targets) t).1) ∧
      (declares "properties" targets = false → declares "patternProperties" targets = false →
        (onObject w' (.bool true) subject (merged targets) t).1 = .ok [] ∧
          (onBranches w effective subject branches s).1 =
            .ok (complaint effective subject.value branches (nameSet (Json.Members.keys object)) [])) := by
  obtain ⟨u, hrun⟩ : ∃ u, Walk.each (branchTarget w) branches s = (.ok targets, u) :=
    ⟨_, Prod.ext htargets rfl⟩
  obtain ⟨-, n, hn, rfl⟩ := answers_targets w s branches s.memory hs targets u hrun
  rw [onBranches_apply hobject hrun]
  constructor
  · intro hdeclares hjoins
    rw [onObject_merged hobject hdeclares]
    exact agree_of_joins ht hn hjoins
  · intro hproperties hpatterns
    constructor
    · unfold onObject
      rw [hobject]
      dsimp only
      rw [contains_merged (by simp), contains_merged (by simp), hproperties, hpatterns,
        if_neg (by simp)]
      rfl
    · rw [declaredSet_eq_nil hpatterns]
      show Except.ok (complaint _ _ _ (uncovered targets (fun _ => false) _) _) = _
      simp [uncovered, declaredSet_eq_nil hproperties]

end Checks

/-- Two branches, one of which declares a name by reference and the other a pattern. -/
theorem onBranches_agrees_merged_person :
    let o : Options := { Options.standard .offline with depth := 9 }
    let person : Json := .object [("properties", .object [("name", .object [])])]
    let prefixed : Json := .object [("patternProperties", .object [("^x-", .object [])])]
    let branches := [.object [("$ref", .string "#/definitions/person")], prefixed]
    let v := o.assemble
      (.object [("allOf", .array branches), ("definitions", .object [("person", person)])])
      Validator.defaultBase
    let w : Walker := ⟨v.setting.resolver, true, v.setting.visit 8⟩
    let s := v.start .standard v.memory
    let subject := Subject.root (.object [("name", .null), ("x-a", .null), ("zip", .null)])
    let schema := merged [person, prefixed]
    Agree branches (.object schema) (onBranches w true subject branches s).1
        (onObject w (.bool true) subject schema s).1 ∧
      (onBranches w true subject branches s).1.map (List.map (·.message)) =
        .ok ["banUnknownProperties: 'zip' does not match any of the regexes: '^x-'"] := by
  intro o person prefixed branches v w s subject schema
  have hscopes : s.scopes = .ofBase Validator.defaultBase := rfl
  have hcache : s.memory.cache = v.setting.resolver.seed v.schema := rfl
  have hresolve : ((w.resolver.resolve "#/definitions/person" (.ofBase Validator.defaultBase)).run
      (v.setting.resolver.seed v.schema)).1 =
        .ok ⟨{ Validator.defaultBase with fragment := some "/definitions/person" }, person⟩ := by
    rfl
  have hperson : (branchTarget w (.object [("$ref", .string "#/definitions/person")]) s).1 =
      .ok person := by
    refine (bind_fst (x := w.resolve "#/definitions/person") (·.schema) (fun _ _ => rfl) s).trans ?_
    rw [resolve_apply, hscopes, hcache, hresolve]
    rfl
  have htargets : (Walk.each (branchTarget w) branches s).1 = .ok [person, prefixed] := by
    unfold branches Walk.each
    rw [bind_of_ok (Prod.ext hperson rfl)]
    rfl
  refine ⟨?_, by decide +kernel⟩
  have hcompiled : s.memory.Compiled := List.forall_mem_nil _
  exact (onBranches_agrees_merged w w s s hcompiled hcompiled true subject
    [("name", .null), ("x-a", .null), ("zip", .null)] rfl branches [person, prefixed]
    htargets).1 (.inl rfl) (joins_singleton _ _)

/-- The two exceptions: branches that declare nothing, and a pattern whose trailing comment swallows
the pattern that is joined to it. -/
theorem onBranches_unlike_merged :
    let o : Options := { Options.standard .offline with depth := 9 }
    let silent : Json := .object [("type", .string "object")]
    let patterned (pattern : String) : Json :=
      .object [("patternProperties", .object [(pattern, .object [])])]
    let patterns := [patterned "(?x)a#", patterned "b"]
    let v := o.assemble (.object []) Validator.defaultBase
    let w : Walker := ⟨v.setting.resolver, true, v.setting.visit 8⟩
    let s := v.start .standard v.memory
    let messages (x : Walk (List Violation)) := (x s).1.map (List.map (·.message))
    let a := Subject.root (.object [("a", .null)])
    let b := Subject.root (.object [("b", .null)])
    (messages (onBranches w true a [silent]) = .ok [
          "banUnknownProperties (Additional properties are not allowed ('a' was unexpected))\n" ++
            "schema: [\x7b\"type\":\"object\"\x7d]"] ∧
        messages (onObject w (.bool true) a (merged [silent])) = .ok []) ∧
      messages (onBranches w true b patterns) = .ok [
          "banUnknownProperties: 'b' does not match any of the regexes: '(?x)a#', 'b'"] ∧
        messages (onObject w (.bool true) b (merged patterns)) = .ok [] := by
  decide +kernel

end SchemaCheck.Ban
