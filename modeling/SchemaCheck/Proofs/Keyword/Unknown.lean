import SchemaCheck.Proofs.Keyword.Merged
import SchemaCheck.Proofs.Visit.Reachable

/-!
The names that the ban reports. The check of one schema lists the keys of an object that the schema
does not declare itself. The check of branches lists the keys that no branch declares, whether or
not the schema around the branches declares them.
-/

namespace SchemaCheck.Ban

open Walk

/-- The schema declares the name as a property, or one of its patterns matches it. -/
def Knows (schema : Json) (name : String) : Prop :=
  name ∈ declaredKeys "properties" schema ∨
    ∃ pattern ∈ declaredKeys "patternProperties" schema, ∃ r,
      Regex.parse? pattern = some r ∧ r.isMatch name = true

/-- One of the schemas declares the name as a property, or the alternation of all their patterns
matches it. -/
def KnownAmong (schemas : List Json) (name : String) : Prop :=
  (∃ schema ∈ schemas, name ∈ declaredKeys "properties" schema) ∨
    declaredSet "patternProperties" schemas ≠ [] ∧ ∃ union,
      Regex.parse? (String.intercalate "|" (declaredSet "patternProperties" schemas)) = some union ∧
        union.isMatch name = true

/-- The list contains exactly the keys of the object that are not known, each once and in ascending
order, and is not empty. -/
structure Names (object : Json.Members) (known : String → Prop) (names : List String) : Prop where
  nonempty : names ≠ []
  ascending : names.Pairwise (· < ·)
  mem_iff : ∀ name, name ∈ names ↔ name ∈ Json.Members.keys object ∧ ¬ known name

variable {object members : Json.Members} {known : String → Prop} {r : Resolver} {root : Json}
variable {s : WalkState} {w : Walker} {subject : Subject}

theorem Names.of_filter {unknown : String → Bool}
    (hsome : (nameSet ((Json.Members.keys object).filter unknown)).isEmpty = false)
    (h : ∀ name, unknown name = true ↔ ¬ known name) :
    Names object known (nameSet ((Json.Members.keys object).filter unknown)) where
  nonempty hnil := by simp [hnil] at hsome
  ascending := ascending_nameSet _
  mem_iff name := by rw [mem_nameSet, List.mem_filter, h name]

theorem keys_declaredMembers (name : String) (members : Json.Members) :
    Json.Members.keys ((Keyword.declaredMembers name members).getD []) =
      declaredKeys name (.object members) := by
  unfold Keyword.declaredMembers declaredKeys
  rw [show (Json.object members).get? name = Json.Members.find? name members from rfl]
  cases Json.Members.find? name members with
  | none => rfl
  | some declared => cases declared <;> rfl

/-- A compiled pattern is the regex that its text is parsed to. -/
theorem answers_regex (pattern : String) :
    Answers (·.Sound r root) s (fun regex => Regex.parse? pattern = some regex)
      (Walk.regex pattern) := by
  intro m hm regex t hrun
  rw [regex_apply] at hrun
  obtain ⟨hresult, rfl⟩ := Prod.mk.inj hrun
  refine ⟨?_, _, hm.compile pattern, rfl⟩
  have hcompiled := Memory.compile_of_compiled hm.compiled pattern
  rw [show (m.compile pattern).1 = .ok regex from hresult] at hcompiled
  cases hparse : Regex.parse? pattern with
  | none => simp [hparse] at hcompiled
  | some _ => simpa [hparse] using hcompiled.symm

theorem answers_additionalKeys (object members : Json.Members) :
    Answers (·.Sound r root) s
      (fun names => ∃ unknown : String → Bool,
        names = (Json.Members.keys object).filter unknown ∧
          ∀ name, unknown name = true ↔ ¬ Knows (.object members) name)
      (Keyword.additionalKeys object members) := by
  unfold Keyword.additionalKeys
  refine .map (.each fun pattern _ => answers_regex pattern) fun regexes hregexes => ?_
  refine ⟨_, rfl, fun name => ?_⟩
  rw [keys_declaredMembers] at hregexes
  rw [contains_eq_keys, keys_declaredMembers, Knows, ← Regex.Compiles.any_isMatch_iff hregexes]
  simp

/-- The check of one schema lists the keys that the schema does not declare. -/
theorem answers_onObject (hobject : subject.value = .object object) (declared : Json) :
    Answers (·.Sound r root) s
      (fun violations => ∀ v ∈ violations, ∃ names,
        Names object (Knows (.object members)) names ∧
          v = .ofMessage (complaintText names
            (nameSet (declaredKeys "patternProperties" (.object members))) (.object members)))
      (onObject w declared subject members) := by
  unfold onObject
  split
  next hvalue =>
    obtain rfl := Json.object.inj (hobject.symm.trans hvalue)
    split
    next =>
      refine .bind (answers_additionalKeys object members) ?_
      rintro _ ⟨unknown, rfl, hunknown⟩
      dsimp only
      split
      next => exact .pure (List.forall_mem_nil _)
      next hsome =>
        refine .pure fun v hv => ?_
        obtain rfl := List.mem_singleton.mp hv
        refine ⟨_, .of_filter (Bool.not_eq_true _ ▸ hsome) hunknown, ?_⟩
        rw [keys_declaredMembers, message_eq]
    next => exact .pure (List.forall_mem_nil _)
  next => exact .pure (List.forall_mem_nil _)

/-- The alternation of no patterns matches nothing, and that of several ones matches as the joined
pattern does. -/
theorem answers_alternation (patterns : List String) :
    Answers (·.Sound r root) s
      (fun union => ∀ name, (union.map (·.isMatch name)).getD false = true ↔
        patterns ≠ [] ∧ ∃ joined, Regex.parse? (String.intercalate "|" patterns) = some joined ∧
          joined.isMatch name = true)
      (alternation patterns) := by
  unfold alternation
  split
  next hempty => exact .pure fun name => by simp [List.isEmpty_iff.mp hempty]
  next hsome =>
    have hpatterns : patterns ≠ [] := fun hnil => hsome (List.isEmpty_iff.mpr hnil)
    exact .map (answers_regex _) fun regex hregex name => by simp [hpatterns, hregex]

/-- The check of branches lists the keys that none of them declares. -/
theorem answers_onBranches_known {stands : Json → Json → Prop} {branches : List Json}
    (hobject : subject.value = .object object)
    (htargets : ∀ branch ∈ branches, Answers (·.Sound r root) s (stands branch) (branchTarget w branch))
    (effective : Bool) :
    Answers (·.Sound r root) s
      (fun violations => ∀ v ∈ violations, ∃ targets names,
        List.Forall₂ stands branches targets ∧ Names object (KnownAmong targets) names ∧
          v.message =
            complaintText names (declaredSet "patternProperties" targets) (.array branches) ∧
          v.keyword = some keyword ∧ v.schemaPath = [.key keyword])
      (onBranches w effective subject branches) := by
  unfold onBranches
  rw [hobject]
  dsimp only [candidates?]
  refine .bind (.each htargets) fun targets hstands => ?_
  refine .bind (answers_alternation (declaredSet "patternProperties" targets)) fun union hunion => ?_
  split
  next => exact .pure (List.forall_mem_nil _)
  next hsome =>
    refine .pure fun v hv => ?_
    obtain rfl := List.mem_singleton.mp hv
    refine ⟨targets, _, hstands, .of_filter (Bool.not_eq_true _ ▸ hsome) fun name => ?_,
      message_eq .., rfl, rfl⟩
    rw [KnownAmong, ← hunion name]
    simp [mem_nameSet, List.mem_flatMap]

end SchemaCheck.Ban
