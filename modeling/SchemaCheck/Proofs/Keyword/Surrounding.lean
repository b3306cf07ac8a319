import SchemaCheck.Proofs.Keyword.Manner
import SchemaCheck.Proofs.Violation.Outline
import SchemaCheck.Proofs.Walk.Agree

/-!
What keywords read of the schema around them. A few read one or two members beside their own and no
keyword depends on any others. The ban quotes the whole schema in its message but reads no other
members.
-/

namespace SchemaCheck

/-- The members that some keyword reads beside its own. -/
def Keyword.surroundings : List String :=
  ["items", "properties", "patternProperties", "exclusiveMinimum", "exclusiveMaximum"]

/-- Two schemas agree on the members that keywords read beside their own. -/
def Json.Members.Alike (members others : Json.Members) : Prop :=
  ∀ name ∈ Keyword.surroundings, find? name members = find? name others

namespace Keyword

variable {members others : Json.Members}

/-- The keyword reads only these members of the schema around it. -/
def Reserved (k : Keyword) : Prop :=
  ∀ w declared subject members others, Json.Members.Alike members others →
    k w declared subject members = k w declared subject others

theorem declaredMembers_congr {name : String} (hname : name ∈ surroundings)
    (h : members.Alike others) : declaredMembers name members = declaredMembers name others := by
  rw [declaredMembers, declaredMembers, h name hname]

theorem flag_congr {name : String} (hname : name ∈ surroundings) (h : members.Alike others) :
    flag name members = flag name others := by
  rw [flag, flag, h name hname]

theorem additionalKeys_congr (object : Json.Members) (h : members.Alike others) :
    additionalKeys object members = additionalKeys object others := by
  unfold additionalKeys
  rw [declaredMembers_congr (by decide) h, declaredMembers_congr (by decide) h]

theorem reserved_additionalItems : additionalItems.Reserved := by
  intro w declared subject members others h
  unfold additionalItems
  rw [h "items" (by decide)]

theorem reserved_additionalProperties : additionalProperties.Reserved := by
  intro w declared subject members others h
  have hmessage (extras : List String) :
      additionalMessage extras members = additionalMessage extras others := by
    rw [additionalMessage, additionalMessage, declaredMembers_congr (by decide) h]
  unfold additionalProperties
  simp only [additionalKeys_congr _ h, hmessage]

theorem reserved_maximum : maximum.Reserved := by
  intro w declared subject members others h
  unfold maximum
  rw [flag_congr (by decide) h]

theorem reserved_minimum : minimum.Reserved := by
  intro w declared subject members others h
  unfold minimum
  rw [flag_congr (by decide) h]

theorem reserved_shared : ∀ e ∈ Registry.shared, e.1 ≠ Ban.keyword → e.2.Reserved := by
  simp only [Registry.shared, List.forall_mem_cons]
  exact ⟨fun _ _ _ _ _ _ _ => rfl, fun _ => reserved_additionalItems,
    fun _ => reserved_additionalProperties, fun h => absurd rfl h, fun _ _ _ _ _ _ _ => rfl,
    fun _ _ _ _ _ _ _ => rfl, fun _ _ _ _ _ _ _ => rfl, fun _ _ _ _ _ _ _ => rfl,
    fun _ => reserved_maximum, fun _ _ _ _ _ _ _ => rfl, fun _ _ _ _ _ _ _ => rfl,
    fun _ => reserved_minimum, fun _ _ _ _ _ _ _ => rfl, fun _ _ _ _ _ _ _ => rfl,
    fun _ _ _ _ _ _ _ => rfl, List.forall_mem_nil _⟩

theorem reserved_draft4Only : ∀ e ∈ Registry.draft4Only, e.1 ≠ Ban.keyword → e.2.Reserved := by
  simp only [Registry.draft4Only, List.forall_mem_cons]
  exact ⟨fun _ _ _ _ _ _ _ => rfl, fun _ _ _ _ _ _ _ => rfl, fun _ _ _ _ _ _ _ => rfl,
    fun _ _ _ _ _ _ _ => rfl, fun _ _ _ _ _ _ _ => rfl, fun _ _ _ _ _ _ _ => rfl,
    fun _ _ _ _ _ _ _ => rfl, fun _ _ _ _ _ _ _ => rfl, fun _ _ _ _ _ _ _ => rfl,
    fun _ _ _ _ _ _ _ => rfl, fun _ _ _ _ _ _ _ => rfl, List.forall_mem_nil _⟩

theorem reserved_draft3Only : ∀ e ∈ Registry.draft3Only, e.1 ≠ Ban.keyword → e.2.Reserved := by
  simp only [Registry.draft3Only, List.forall_mem_cons]
  exact ⟨fun _ _ _ _ _ _ _ => rfl, fun _ _ _ _ _ _ _ => rfl, fun _ _ _ _ _ _ _ => rfl,
    fun _ _ _ _ _ _ _ => rfl, fun _ _ _ _ _ _ _ => rfl, fun _ _ _ _ _ _ _ => rfl,
    List.forall_mem_nil _⟩

theorem reserved_of_lookup?_ofDraft {draft : Draft} {name : String} {k : Keyword}
    (h : (Registry.ofDraft draft).lookup? name = some k) (hname : name ≠ Ban.keyword) :
    k.Reserved :=
  Registry.of_lookup?_ofDraft (p := fun name k => name ≠ Ban.keyword → k.Reserved)
    reserved_shared reserved_draft4Only reserved_draft3Only h hname

/-- Under two such schemas the ban finds the same unknown names, and each time quotes the schema
that it is applied to. -/
theorem agrees_onObject (w : Walker) (declared : Json) (subject : Subject)
    (h : members.Alike others) :
    Walk.Agrees Violation.Same (Ban.onObject w declared subject members)
      (Ban.onObject w declared subject others) := by
  have hcontains (name : String) (hname : name ∈ surroundings) :
      Json.Members.contains name members = Json.Members.contains name others := by
    rw [Json.Members.contains, Json.Members.contains, h name hname]
  unfold Ban.onObject
  rw [hcontains "properties" (by decide), hcontains "patternProperties" (by decide)]
  split
  · split
    · rw [additionalKeys_congr _ h, declaredMembers_congr (by decide) h]
      refine .bind (.refl (fun _ => rfl) _) fun keys _ heq => ?_
      obtain rfl : keys = _ := heq
      dsimp only
      split
      · exact .pure (.refl [])
      · exact .pure (.singleton (Violation.outline_ofMessage _ _))
    · exact .pure (.refl [])
  · exact .pure (.refl [])

end Keyword

end SchemaCheck
