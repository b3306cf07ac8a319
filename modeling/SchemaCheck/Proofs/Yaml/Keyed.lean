import SchemaCheck.Proofs.Yaml.Convert
import SchemaCheck.Yaml.Load

/-!
Values without repeated keys. Every value that is loaded from a text has this property, because an
entry is only added to a mapping that does not have its key yet.
-/

namespace SchemaCheck.Yaml

namespace Value

/-- No entry has the key of an earlier one. -/
def Unrepeated (entries : List (Value × Value)) : Prop :=
  entries.Pairwise fun a b => a.1.same b.1 = false

/-- No mapping outside the keys repeats a key. -/
def Keyed (v : Value) : Prop :=
  ∀ entries, PartOf (.mapping entries) v → Unrepeated entries

namespace Keyed

variable {v : Value}

theorem part {u : Value} (h : Keyed v) (hpart : PartOf u v) : Keyed u :=
  fun entries hentries => h entries (hentries.trans hpart)

theorem null : Keyed null :=
  fun _ h => nomatch h

theorem bool {b : Bool} : Keyed (bool b) :=
  fun _ h => nomatch h

theorem number {n : Number} : Keyed (number n) :=
  fun _ h => nomatch h

theorem string {s : String} : Keyed (string s) :=
  fun _ h => nomatch h

theorem sequence {items : List Value} (h : ∀ v ∈ items, Keyed v) : Keyed (sequence items) := by
  rintro entries (_ | ⟨hmem, hpart⟩)
  exact h _ hmem entries hpart

theorem mapping {entries : List (Value × Value)} (hkeys : Unrepeated entries)
    (h : ∀ entry ∈ entries, Keyed entry.2) : Keyed (mapping entries) := by
  rintro inner (_ | _ | ⟨hmem, hpart⟩)
  · exact hkeys
  · exact h _ hmem inner hpart

theorem tagged {tag : String} (h : Keyed v) : Keyed (tagged tag v) := by
  rintro entries (_ | _ | _ | hpart)
  exact h entries hpart

theorem withTag (tag : Option Utf8.Bytes) (h : Keyed v) : Keyed (Node.withTag tag v) := by
  unfold Node.withTag
  split
  · exact tagged h
  · exact h

end Keyed

theorem keyed_of_plain? {s : String} {v : Value} (h : Scalar.plain? s = some v) : Keyed v := by
  unfold Scalar.plain? at h
  split at h
  · cases h
    exact .null
  · split at h
    · cases h
      exact .bool
    · split at h
      · cases h
        exact .number
      · cases h
      · split at h
        · cases h
          exact .string
        · split at h <;> cases h
          · exact .number
          · exact .string

theorem keyed_of_read? {s : String} {core : Scalar.Core} {v : Value}
    (h : core.read? s = some v) : Keyed v := by
  cases core with
  | null =>
      obtain ⟨-, ⟨⟩⟩ := Option.ite_none_right_eq_some.mp h
      exact .null
  | bool =>
      obtain ⟨b, -, rfl⟩ := Option.map_eq_some_iff.mp h
      exact .bool
  | int =>
      rw [Scalar.Core.read?] at h
      split at h <;> cases h
      exact .number
  | float =>
      obtain ⟨x, -, rfl⟩ := Option.map_eq_some_iff.mp h
      exact .number

theorem keyed_of_scalarValue? {tag : Option Utf8.Bytes} {plain : Bool} {text : String} {v : Value}
    (h : Node.scalarValue? tag plain text = some v) : Keyed v := by
  have huntyped (h : (if plain then Scalar.plain? text else some (.string text)) = some v) :
      Keyed v := by
    split at h
    · exact keyed_of_plain? h
    · cases h
      exact .string
  unfold Node.scalarValue? at h
  dsimp only at h
  split at h
  next => exact huntyped h
  next tag =>
    cases hcore : (Utf8.decode? tag).bind Scalar.Core.ofTag? with
    | some core =>
        rw [hcore] at h
        exact keyed_of_read? h
    | none =>
        rw [hcore] at h
        dsimp only at h
        split at h
        · exact huntyped h
        · cases h
          exact .string

end Value

namespace Loading

open Value (Keyed Unrepeated)

variable {α β : Type} {p : α → Prop} {q : β → Prop}

/-- Every result of `x` satisfies `p`. -/
def Ensures (p : α → Prop) (x : Loading α) : Prop :=
  ∀ s a t, x s = some (a, t) → p a

namespace Ensures

theorem pure {a : α} (h : p a) : Ensures p (pure a) := by
  rintro s b t ⟨⟩
  exact h

theorem failure : Ensures p failure := by
  rintro s b t ⟨⟩

theorem bind {x : Loading β} {f : β → Loading α} (hx : Ensures q x)
    (hf : ∀ b, q b → Ensures p (f b)) : Ensures p (x >>= f) := by
  intro s a t h
  obtain ⟨⟨b, middle⟩, hrun, hrest⟩ := Option.bind_eq_some_iff.mp h
  exact hf b (hx s b middle hrun) middle a t hrest

/-- The result of the first part is not restricted. -/
theorem after {x : Loading β} {f : β → Loading α} (hf : ∀ b, Ensures p (f b)) :
    Ensures p (x >>= f) :=
  bind (q := fun _ => True) (fun _ _ _ _ => trivial) fun b _ => hf b

theorem each {f : β → Loading α} (hf : ∀ b, Ensures p (f b)) (list : List β) :
    Ensures (fun results => ∀ a ∈ results, p a) (each f list) := by
  induction list with
  | nil => exact pure nofun
  | cons b rest ih =>
      refine bind (hf b) fun a ha => bind ih fun results hresults => pure ?_
      exact List.forall_mem_cons.mpr ⟨ha, hresults⟩

/-- An added entry has a new key. -/
theorem insertEntry {key value : Value} {done : List (Value × Value)}
    (hdone : Unrepeated done.reverse ∧ ∀ entry ∈ done, Keyed entry.2) (hvalue : Keyed value) :
    Ensures (fun entries => Unrepeated entries.reverse ∧ ∀ entry ∈ entries, Keyed entry.2)
      (insertEntry key value done) := by
  unfold Loading.insertEntry
  split
  next => exact failure
  next hnew =>
    refine pure ⟨?_, List.forall_mem_cons.mpr ⟨hvalue, hdone.2⟩⟩
    rw [List.any_eq_true, not_exists] at hnew
    rw [Unrepeated, List.reverse_cons, List.pairwise_append]
    refine ⟨hdone.1, List.pairwise_singleton .., fun earlier hearlier other hother => ?_⟩
    cases List.mem_singleton.mp hother
    exact Bool.eq_false_iff.mpr fun hsame => hnew earlier ⟨List.mem_reverse.mp hearlier, hsame⟩

theorem entries {f : Node → Loading Value} (hf : ∀ n, Ensures Keyed (f n))
    (pairs : List (Node × Node)) {done : List (Value × Value)}
    (hdone : Unrepeated done.reverse ∧ ∀ entry ∈ done, Keyed entry.2) :
    Ensures (fun entries => Unrepeated entries ∧ ∀ entry ∈ entries, Keyed entry.2)
      (entries f done pairs) := by
  induction pairs generalizing done with
  | nil => exact pure ⟨hdone.1, fun entry hentry => hdone.2 entry (List.mem_reverse.mp hentry)⟩
  | cons pair rest ih =>
      refine after fun key => bind (hf pair.2) fun value hvalue => ?_
      exact bind (insertEntry hdone hvalue) fun entries hentries => ih hentries

end Ensures

/-- The value of a node that is not an alias, where `f` loads the nodes inside it. -/
def inside (f : Node → Loading Value) (depth : Nat) : Node → Loading Value
  | .aliasOf _ => failure
  | .scalar p plain text =>
    match Node.scalarValue? p.tag plain text with
    | some v => return Node.withTag p.tag v
    | none => failure
  | .sequence p items =>
    if depth = 0 then failure
    else return Node.withTag p.tag (.sequence (← each f items))
  | .mapping p pairs =>
    if depth = 0 then failure
    else return Node.withTag p.tag (.mapping (← entries f [] pairs))

/-- Loading a node follows one alias at most before it loads the nodes inside. -/
theorem value_succ (root : Node) (limit depth : Nat) (n : Node) :
    value root limit (depth + 1) n =
      (match n with
        | Node.aliasOf number => follow root limit number
        | n => pure n) >>= inside (value root limit depth) depth := by
  cases n <;> rfl

theorem keyed_inside {f : Node → Loading Value} (hf : ∀ n, Ensures Keyed (f n)) (depth : Nat)
    (n : Node) : Ensures Keyed (inside f depth n) := by
  cases n with
  | aliasOf number => exact .failure
  | scalar p plain text =>
      rw [inside]
      cases hscalar : Node.scalarValue? p.tag plain text with
      | none => exact .failure
      | some v => exact .pure (.withTag _ (Value.keyed_of_scalarValue? hscalar))
  | sequence p items =>
      rw [inside]
      split
      next => exact .failure
      next => exact .bind (.each hf items) fun items hitems => .pure (.withTag _ (.sequence hitems))
  | mapping p pairs =>
      have hnone : Unrepeated [].reverse ∧ ∀ entry ∈ [], Keyed (Prod.snd (α := Value) entry) :=
        ⟨List.Pairwise.nil, fun _ h => nomatch h⟩
      rw [inside]
      split
      next => exact .failure
      next =>
        exact .bind (.entries hf pairs hnone) fun entries hentries =>
          .pure (.withTag _ (.mapping hentries.1 hentries.2))

/-- The value of a node has no repeated keys. -/
theorem keyed_value (root : Node) (limit depth : Nat) (n : Node) :
    Ensures Keyed (value root limit depth n) := by
  induction depth generalizing n with
  | zero => exact .failure
  | succ depth ih =>
      rw [value_succ]
      exact .after (keyed_inside ih depth)

end Loading

namespace Value

/-- No mapping of a loaded value repeats a key. -/
theorem keyed_of_ofText? {text : String} {v : Value} (h : ofText? text = some v) : Keyed v := by
  obtain ⟨root?, -, h⟩ := Option.bind_eq_some_iff.mp h
  cases root? with
  | none =>
      cases h
      exact .null
  | some root =>
      obtain ⟨⟨loaded, count⟩, hrun, ⟨⟩⟩ := Option.bind_eq_some_iff.mp h
      exact Loading.keyed_value root _ _ root 0 v count hrun

end Value

end SchemaCheck.Yaml
