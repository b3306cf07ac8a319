import Mathlib.Data.List.Forall2
import Mathlib.Logic.Relation
import SchemaCheck.Proofs.Json.Entries
import SchemaCheck.Proofs.Json.Equal
import SchemaCheck.Yaml.Convert

/-!
The conversion to JSON. It succeeds on a value iff no part outside the keys is foreign to JSON, that
is, a number that is not finite or a mapping with a key that is no simple scalar. Tags around values
do not affect it, and it inverts the embedding of JSON.
-/

namespace SchemaCheck.Yaml.Value

/-- `v` is the value itself or a part of it outside the keys. -/
inductive PartOf (v : Value) : Value → Prop
  | whole : PartOf v v
  | item {item : Value} {items : List Value} :
      item ∈ items → PartOf v item → PartOf v (.sequence items)
  | entry {key value : Value} {entries : List (Value × Value)} :
      (key, value) ∈ entries → PartOf v value → PartOf v (.mapping entries)
  | tagged {tag : String} {value : Value} : PartOf v value → PartOf v (.tagged tag value)

theorem PartOf.trans {u v w : Value} (huv : PartOf u v) (hvw : PartOf v w) : PartOf u w := by
  induction hvw with
  | whole => exact huv
  | item hmem _ ih => exact .item hmem ih
  | entry hmem _ ih => exact .entry hmem ih
  | tagged _ ih => exact .tagged ih

/-- Induction over values, with hypotheses for the parts of a value outside its keys. -/
theorem value_induction {P : Value → Prop} (hnull : P .null) (hbool : ∀ b, P (.bool b))
    (hnumber : ∀ n, P (.number n)) (hstring : ∀ s, P (.string s))
    (hsequence : ∀ items, (∀ v ∈ items, P v) → P (.sequence items))
    (hmapping : ∀ entries : List (Value × Value), (∀ entry ∈ entries, P entry.2) →
      P (.mapping entries))
    (htagged : ∀ tag v, P v → P (.tagged tag v)) (v : Value) : P v :=
  @Value.rec P (fun items => ∀ v ∈ items, P v) (fun entries => ∀ entry ∈ entries, P entry.2)
    (fun entry => P entry.2) hnull hbool hnumber hstring hsequence hmapping htagged
    (fun _ h => nomatch h) (fun _ _ hv hrest => List.forall_mem_cons.mpr ⟨hv, hrest⟩)
    (fun _ h => nomatch h) (fun _ _ hv hrest => List.forall_mem_cons.mpr ⟨hv, hrest⟩)
    (fun _ _ _ hv => hv) v

/-- Null, a collection or a tagged value, none of which can be a key in JSON. -/
def Compound : Value → Prop
  | null | sequence _ | mapping _ | tagged _ _ => True
  | bool _ | number _ | string _ => False

/-- A number that is not finite, or a mapping with a compound key. -/
def Foreign : Value → Prop
  | number (.infinity _) | number .nan => True
  | mapping entries => ∃ entry ∈ entries, entry.1.Compound
  | _ => False

section Success

variable {v : Value} {items : List Value} {entries : List (Value × Value)}

theorem exists_keyText?_iff : (∃ text, v.keyText? = some text) ↔ ¬ v.Compound := by
  cases v <;> simp [keyText?, Compound]

theorem exists_toJson_number_iff {n : Number} :
    (∃ j, (number n).toJson = .ok j) ↔ ¬ (number n).Foreign := by
  cases n <;> simp [toJson, Number.toJson?, Foreign]

/-- Items are converted one by one. -/
theorem toJsonItems_eq_ok_iff {js : List Json} :
    toJsonItems items = .ok js ↔ List.Forall₂ (fun v j => v.toJson = .ok j) items js := by
  induction items generalizing js with
  | nil =>
      rw [toJsonItems, List.forall₂_nil_left_iff, Except.ok.injEq, eq_comm]
  | cons item rest ih =>
      rw [toJsonItems, List.forall₂_cons_left_iff]
      cases hitem : item.toJson with
      | error e => exact ⟨nofun, fun ⟨_, _, h, _⟩ => nomatch h⟩
      | ok j =>
          cases hrest : toJsonItems rest with
          | error e =>
              refine ⟨nofun, fun ⟨_, js, _, htail, _⟩ => ?_⟩
              exact nomatch hrest.symm.trans (ih.mpr htail)
          | ok tail =>
              constructor
              · rintro ⟨⟩
                exact ⟨j, tail, rfl, ih.mp hrest, rfl⟩
              · rintro ⟨_, _, ⟨⟩, htail, rfl⟩
                cases hrest.symm.trans (ih.mpr htail)
                rfl

/-- The key is converted to its text, and the value by the conversion. -/
def EntryTo (entry : Value × Value) (converted : String × Json) : Prop :=
  entry.1.keyText? = some converted.1 ∧ entry.2.toJson = .ok converted.2

theorem toJsonEntries_eq_ok_iff {converted : List (String × Json)} :
    toJsonEntries entries = .ok converted ↔ List.Forall₂ EntryTo entries converted := by
  induction entries generalizing converted with
  | nil =>
      rw [toJsonEntries, List.forall₂_nil_left_iff, Except.ok.injEq, eq_comm]
  | cons entry rest ih =>
      obtain ⟨key, value⟩ := entry
      rw [toJsonEntries, List.forall₂_cons_left_iff]
      cases hkey : key.keyText? with
      | none =>
          refine ⟨nofun, fun ⟨_, _, hentry, _⟩ => ?_⟩
          exact nomatch hkey.symm.trans hentry.1
      | some text =>
          cases hvalue : value.toJson with
          | error e =>
              refine ⟨nofun, fun ⟨_, _, hentry, _⟩ => ?_⟩
              exact nomatch hvalue.symm.trans hentry.2
          | ok j =>
              cases hrest : toJsonEntries rest with
              | error e =>
                  refine ⟨nofun, fun ⟨_, _, _, htail, _⟩ => ?_⟩
                  exact nomatch hrest.symm.trans (ih.mpr htail)
              | ok tail =>
                  constructor
                  · rintro ⟨⟩
                    exact ⟨_, tail, ⟨hkey, hvalue⟩, ih.mp hrest, rfl⟩
                  · rintro ⟨⟨_, _⟩, _, ⟨hkey', hvalue'⟩, htail, rfl⟩
                    cases hkey.symm.trans hkey'
                    cases hvalue.symm.trans hvalue'
                    cases hrest.symm.trans (ih.mpr htail)
                    rfl

theorem toJson_sequence_eq_ok_iff {j : Json} : (sequence items).toJson = .ok j ↔
    ∃ js, List.Forall₂ (fun v j => v.toJson = .ok j) items js ∧ j = .array js := by
  rw [toJson]
  simp only [← toJsonItems_eq_ok_iff]
  cases toJsonItems items with
  | error e => exact ⟨nofun, fun ⟨_, h, _⟩ => nomatch h⟩
  | ok js =>
      constructor
      · rintro ⟨⟩
        exact ⟨js, rfl, rfl⟩
      · rintro ⟨_, ⟨⟩, rfl⟩
        rfl

theorem toJson_mapping_eq_ok_iff {j : Json} : (mapping entries).toJson = .ok j ↔
    ∃ converted, List.Forall₂ EntryTo entries converted ∧
      j = .object (Json.Members.ofList converted) := by
  rw [toJson]
  simp only [← toJsonEntries_eq_ok_iff]
  cases toJsonEntries entries with
  | error e => exact ⟨nofun, fun ⟨_, h, _⟩ => nomatch h⟩
  | ok converted =>
      constructor
      · rintro ⟨⟩
        exact ⟨converted, rfl, rfl⟩
      · rintro ⟨_, ⟨⟩, rfl⟩
        rfl

/-- A list has images under a relation iff each of its elements has one. -/
theorem exists_forall₂_iff {α β : Type} {R : α → β → Prop} {list : List α} :
    (∃ images, List.Forall₂ R list images) ↔ ∀ a ∈ list, ∃ b, R a b := by
  induction list with
  | nil => simp
  | cons a list ih => simp [List.forall₂_cons_left_iff, ← ih]

/-- A value is converted iff none of its parts outside the keys is foreign. -/
theorem exists_toJson_iff : (∃ j, v.toJson = .ok j) ↔ ∀ part, PartOf part v → ¬ part.Foreign := by
  induction v using value_induction with
  | hnull =>
      refine ⟨?_, fun _ => ⟨_, rfl⟩⟩
      rintro - _ ⟨⟩ ⟨⟩
  | hbool b =>
      refine ⟨?_, fun _ => ⟨_, rfl⟩⟩
      rintro - _ ⟨⟩ ⟨⟩
  | hstring s =>
      refine ⟨?_, fun _ => ⟨_, rfl⟩⟩
      rintro - _ ⟨⟩ ⟨⟩
  | hnumber n =>
      rw [exists_toJson_number_iff]
      refine ⟨?_, fun h => h _ .whole⟩
      rintro h _ ⟨⟩
      exact h
  | hsequence items ih =>
      have hitems : (∃ j, (sequence items).toJson = .ok j) ↔
          ∀ v ∈ items, ∃ j, v.toJson = .ok j := by
        simp only [toJson_sequence_eq_ok_iff, ← exists_forall₂_iff]
        exact ⟨fun ⟨_, js, h, _⟩ => ⟨js, h⟩, fun ⟨js, h⟩ => ⟨_, js, h, rfl⟩⟩
      rw [hitems]
      constructor
      · rintro h part (_ | ⟨hmem, hpart⟩)
        · exact id
        · exact (ih _ hmem).mp (h _ hmem) part hpart
      · exact fun h v hmem => (ih v hmem).mpr fun part hpart => h part (.item hmem hpart)
  | hmapping entries ih =>
      have hentries : (∃ j, (mapping entries).toJson = .ok j) ↔
          ∀ entry ∈ entries, ¬ entry.1.Compound ∧ ∃ j, entry.2.toJson = .ok j := by
        simp only [toJson_mapping_eq_ok_iff, ← exists_keyText?_iff]
        have himage : (∃ converted, List.Forall₂ EntryTo entries converted) ↔ _ :=
          exists_forall₂_iff
        constructor
        · rintro ⟨_, converted, h, _⟩ entry hentry
          obtain ⟨⟨text, j⟩, hkey, hvalue⟩ := himage.mp ⟨converted, h⟩ entry hentry
          exact ⟨⟨text, hkey⟩, j, hvalue⟩
        · intro h
          obtain ⟨converted, hconverted⟩ := himage.mpr fun entry hentry => by
            obtain ⟨⟨text, hkey⟩, j, hvalue⟩ := h entry hentry
            exact ⟨(text, j), hkey, hvalue⟩
          exact ⟨_, converted, hconverted, rfl⟩
      rw [hentries]
      constructor
      · rintro h part (_ | _ | ⟨hmem, hpart⟩)
        · rintro ⟨entry, hentry, hkey⟩
          exact (h entry hentry).1 hkey
        · exact (ih _ hmem).mp (h _ hmem).2 part hpart
      · refine fun h entry hentry => ⟨fun hkey => h _ .whole ⟨entry, hentry, hkey⟩, ?_⟩
        exact (ih entry hentry).mpr fun part hpart => h part (.entry hentry hpart)
  | htagged tag v ih =>
      rw [toJson, ih]
      constructor
      · rintro h part (_ | _ | _ | hpart)
        · exact id
        · exact h part hpart
      · exact fun h part hpart => h part (.tagged hpart)

end Success

section Tags

/-- The second value is the first one with one tag removed, outside the keys. -/
inductive Untag : Value → Value → Prop
  | here (tag : String) (v : Value) : Untag (.tagged tag v) v
  | item {v u : Value} (before after : List Value) :
      Untag v u → Untag (.sequence (before ++ v :: after)) (.sequence (before ++ u :: after))
  | entry {v u : Value} (before : List (Value × Value)) (key : Value)
      (after : List (Value × Value)) : Untag v u →
      Untag (.mapping (before ++ (key, v) :: after)) (.mapping (before ++ (key, u) :: after))
  | inside {v u : Value} (tag : String) : Untag v u → Untag (.tagged tag v) (.tagged tag u)

variable {v u : Value}

theorem toJsonItems_congr (h : u.toJson = v.toJson) (before after : List Value) :
    toJsonItems (before ++ u :: after) = toJsonItems (before ++ v :: after) := by
  induction before with
  | nil => rw [List.nil_append, List.nil_append, toJsonItems, toJsonItems, h]
  | cons item before ih =>
      rw [List.cons_append, List.cons_append, toJsonItems, toJsonItems, ih]

theorem toJsonEntries_congr (h : u.toJson = v.toJson) (before : List (Value × Value)) (key : Value)
    (after : List (Value × Value)) : toJsonEntries (before ++ (key, u) :: after) =
      toJsonEntries (before ++ (key, v) :: after) := by
  induction before with
  | nil => rw [List.nil_append, List.nil_append, toJsonEntries, toJsonEntries, h]
  | cons entry before ih =>
      rw [List.cons_append, List.cons_append, toJsonEntries, toJsonEntries, ih]

/-- Removing a tag does not change the conversion. -/
theorem toJson_untag (h : Untag v u) : u.toJson = v.toJson := by
  induction h with
  | here tag v => rw [toJson]
  | item before after _ ih => rw [toJson, toJson, toJsonItems_congr ih]
  | entry before key after _ ih => rw [toJson, toJson, toJsonEntries_congr ih]
  | inside tag _ ih => rw [toJson, toJson, ih]

theorem toJson_untagged (h : Relation.ReflTransGen Untag v u) : u.toJson = v.toJson := by
  induction h with
  | refl => rfl
  | tail _ hstep ih => exact (toJson_untag hstep).trans ih

end Tags

section Embedding

mutual

/-- The embedding of JSON: the same scalars, and strings as keys. -/
def ofJson : Json → Value
  | .null => null
  | .bool b => bool b
  | .number (.integer n) => number (.integer n)
  | .number (.double x) => number (.double x)
  | .string s => string s
  | .array items => sequence (ofJsonItems items)
  | .object members => mapping (ofJsonMembers members)

def ofJsonItems : List Json → List Value
  | [] => []
  | j :: rest => ofJson j :: ofJsonItems rest

def ofJsonMembers : List (String × Json) → List (Value × Value)
  | [] => []
  | (key, j) :: rest => (string key, ofJson j) :: ofJsonMembers rest

end

theorem toJsonItems_ofJsonItems {items : List Json}
    (h : ∀ j ∈ items, (ofJson j).toJson = .ok j) : toJsonItems (ofJsonItems items) = .ok items := by
  induction items with
  | nil => rw [ofJsonItems, toJsonItems]
  | cons j rest ih =>
      obtain ⟨hj, hrest⟩ := List.forall_mem_cons.mp h
      rw [ofJsonItems, toJsonItems, hj, ih hrest]
      rfl

theorem toJsonEntries_ofJsonMembers {members : List (String × Json)}
    (h : ∀ entry ∈ members, (ofJson entry.2).toJson = .ok entry.2) :
    toJsonEntries (ofJsonMembers members) = .ok members := by
  induction members with
  | nil => rw [ofJsonMembers, toJsonEntries]
  | cons entry rest ih =>
      obtain ⟨hentry, hrest⟩ := List.forall_mem_cons.mp h
      rw [ofJsonMembers, toJsonEntries, hentry, ih hrest]
      rfl

theorem toJson_ofJson {j : Json} (h : j.Ordered) : (ofJson j).toJson = .ok j := by
  induction j using Json.whole_induction with
  | hnull => rfl
  | hbool b => rfl
  | hnumber n => cases n <;> rfl
  | hstring s => rfl
  | harray items ih =>
      rw [ofJson, toJson, toJsonItems_ofJsonItems fun j hj => ih j hj (h.part (.of_mem_items hj))]
      rfl
  | hobject members ih =>
      rw [ofJson, toJson, toJsonEntries_ofJsonMembers fun entry hentry =>
        ih entry hentry (h.part (.of_mem_members hentry))]
      exact congrArg (Except.ok ∘ Json.object) (Json.Members.ofList_eq_self h.ascending)

end Embedding

/-- The conversion fails iff a part outside the keys is foreign, does not depend on tags around
values, and inverts the embedding of JSON, for values with sorted members. -/
theorem conversion_faithful (v : Value) :
    ((∃ obstacle, v.toJson = .error obstacle) ↔ ∃ part, PartOf part v ∧ part.Foreign) ∧
      (∀ u, Relation.ReflTransGen Untag v u → u.toJson = v.toJson) ∧
      ∀ j : Json, j.Ordered → (ofJson j).toJson = .ok j := by
  refine ⟨?_, fun u => toJson_untagged, fun j => toJson_ofJson⟩
  have hfails : (∃ obstacle, v.toJson = .error obstacle) ↔ ¬ ∃ j, v.toJson = .ok j := by
    cases v.toJson <;> simp
  rw [hfails, exists_toJson_iff]
  simp

/-- A key that is not finite is converted to its text, while a tagged value that is not finite is
foreign and a tagged value that is finite is converted. -/
theorem conversion_faithful_nan :
    (∃ obstacle, (sequence [tagged "a" (number .nan)]).toJson = .error obstacle) ∧
      (mapping [(number .nan, tagged "a" (bool true))]).toJson =
        .ok (.object [(".nan", .bool true)]) ∧
      (ofJson (.object [(".nan", .bool true)])).toJson = .ok (.object [(".nan", .bool true)]) := by
  have hobject : (Json.object [(".nan", .bool true)]).Ordered :=
    .single fun _ h => nomatch h
  have huntag : Untag (mapping [(number .nan, tagged "a" (bool true))])
      (mapping [(number .nan, bool true)]) := .entry [] _ [] (.here "a" _)
  refine ⟨?_, ?_, (conversion_faithful null).2.2 _ hobject⟩
  · refine (conversion_faithful _).1.mpr ⟨number .nan, ?_, trivial⟩
    exact .item List.mem_cons_self (.tagged .whole)
  · exact ((conversion_faithful _).2.1 _ (.single huntag)).symm.trans rfl

end SchemaCheck.Yaml.Value
