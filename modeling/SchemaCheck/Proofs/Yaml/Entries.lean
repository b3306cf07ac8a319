import SchemaCheck.Proofs.Yaml.Key
import SchemaCheck.Proofs.Yaml.Keyed

/-!
The entries of a mapping after the conversion. Each entry becomes a member of the object, under the
text of its key. The exception is a string that is also the text of another key of the mapping: then
the last entry with this text replaces the others.
-/

namespace SchemaCheck.Yaml.Value

/-- A string among the keys is the text of a key that is not a string. -/
def Ambiguous (entries : List (Value × Value)) : Prop :=
  ∃ text value, (string text, value) ∈ entries ∧
    ∃ entry ∈ entries, (∀ s, entry.1 ≠ string s) ∧ entry.1.keyText? = some text

/-- No mapping outside the keys is ambiguous. -/
def Unambiguous (v : Value) : Prop :=
  ∀ entries, PartOf (.mapping entries) v → ¬ Ambiguous entries

theorem Unambiguous.part {u v : Value} (h : Unambiguous v) (hpart : PartOf u v) : Unambiguous u :=
  fun entries hentries => h entries (hentries.trans hpart)

/-- The converted value is found under the text of the key. -/
def FoundIn (members : Json.Members) (key value : Value) : Prop :=
  ∃ text j, key.keyText? = some text ∧ value.toJson = .ok j ∧
    Json.Members.find? text members = some j

variable {entries : List (Value × Value)} {converted : List (String × Json)}
  {members : Json.Members} {key value v : Value}

theorem keyText?_ne {a b : Value × Value} (h : ¬ Ambiguous entries) (ha : a ∈ entries)
    (hb : b ∈ entries) (hsimple : ∃ text, a.1.keyText? = some text)
    (hkeys : a.1.same b.1 = false) : a.1.keyText? ≠ b.1.keyText? := by
  intro htext
  obtain ⟨text, hatext⟩ := hsimple
  have hbtext := htext.symm.trans hatext
  obtain ⟨ka, va⟩ := a
  obtain ⟨kb, vb⟩ := b
  by_cases hastring : ∃ s, ka = string s
  · obtain ⟨s, rfl⟩ := hastring
    cases hatext
    by_cases hbstring : ∃ t, kb = string t
    · obtain ⟨t, rfl⟩ := hbstring
      cases hbtext
      simp [same] at hkeys
    · exact h ⟨_, _, ha, _, hb, not_exists.mp hbstring, hbtext⟩
  · by_cases hbstring : ∃ t, kb = string t
    · obtain ⟨t, rfl⟩ := hbstring
      cases hbtext
      exact h ⟨_, _, hb, _, ha, not_exists.mp hastring, hatext⟩
    · have hsame := same_of_keyText? (not_exists.mp hastring) (not_exists.mp hbstring) hatext hbtext
      exact absurd hsame (by simp [hkeys])

/-- The texts of the keys are distinct iff no string is the text of another key. -/
theorem nodup_texts_iff (hkeys : Unrepeated entries)
    (hsimple : ∀ entry ∈ entries, ∃ text, entry.1.keyText? = some text) :
    (entries.map fun entry => entry.1.keyText?).Nodup ↔ ¬ Ambiguous entries := by
  constructor
  · rintro hnodup ⟨text, value, hstring, entry, hentry, hother, htext⟩
    have heq := List.inj_on_of_nodup_map hnodup hstring hentry htext.symm
    exact hother text (heq ▸ rfl)
  · intro h
    refine List.pairwise_map.mpr (hkeys.imp_of_mem fun ha hb hab => ?_)
    exact keyText?_ne h ha hb (hsimple _ ha) hab

theorem texts_of_converted (h : List.Forall₂ EntryTo entries converted) :
    (entries.map fun entry => entry.1.keyText?) = (Json.Members.keys converted).map some := by
  induction h with
  | nil => rfl
  | cons hentry _ ih =>
      rw [List.map_cons, ih, hentry.1]
      rfl

theorem simple_of_converted (h : List.Forall₂ EntryTo entries converted) :
    ∀ entry ∈ entries, ∃ text, entry.1.keyText? = some text := by
  intro entry hentry
  obtain ⟨⟨text, j⟩, hto⟩ := exists_forall₂_iff.mp ⟨converted, h⟩ entry hentry
  exact ⟨text, hto.1⟩

theorem length_members_iff (hkeys : Unrepeated entries)
    (h : List.Forall₂ EntryTo entries converted) :
    (Json.Members.ofList converted).length = entries.length ↔ ¬ Ambiguous entries := by
  rw [h.length_eq, Json.Members.length_ofList_eq_iff,
    ← nodup_texts_iff hkeys (simple_of_converted h), texts_of_converted h,
    List.nodup_map_iff (Option.some_injective _)]

/-- An element of a list has its image at the same index of the list of images. -/
theorem exists_split_of_forall₂ {α β : Type} {R : α → β → Prop} {before after : List α} {a : α}
    {images : List β} (h : List.Forall₂ R (before ++ a :: after) images) :
    ∃ front b rest, images = front ++ b :: rest ∧ R a b ∧ List.Forall₂ R after rest := by
  induction before generalizing images with
  | nil =>
      obtain ⟨b, rest, hab, hrest, rfl⟩ := List.forall₂_cons_left_iff.mp h
      exact ⟨[], b, rest, rfl, hab, hrest⟩
  | cons first before ih =>
      obtain ⟨image, others, -, hothers, rfl⟩ := List.forall₂_cons_left_iff.mp h
      obtain ⟨front, b, rest, rfl, hab, hrest⟩ := ih hothers
      exact ⟨image :: front, b, rest, rfl, hab, hrest⟩

/-- The last entry with a text is found under it. -/
theorem foundIn_of_last {before after : List (Value × Value)}
    (h : List.Forall₂ EntryTo (before ++ (key, value) :: after) converted)
    (hlast : ∀ entry ∈ after, entry.1.keyText? ≠ key.keyText?) :
    FoundIn (Json.Members.ofList converted) key value := by
  obtain ⟨front, ⟨text, j⟩, rest, rfl, ⟨htext, hvalue⟩, hrest⟩ := exists_split_of_forall₂ h
  refine ⟨text, j, htext, hvalue, Json.Members.find?_ofList front fun hmem => ?_⟩
  have hmem : some text ∈ (Json.Members.keys rest).map some := List.mem_map_of_mem hmem
  rw [← texts_of_converted hrest] at hmem
  obtain ⟨entry, hentry, heq⟩ := List.mem_map.mp hmem
  exact hlast entry hentry (heq.trans htext.symm)

/-- If no string is the text of another key, every entry is found. -/
theorem foundIn_of_mem (hkeys : Unrepeated entries) (hclear : ¬ Ambiguous entries)
    (h : List.Forall₂ EntryTo entries converted) (hmem : (key, value) ∈ entries) :
    FoundIn (Json.Members.ofList converted) key value := by
  have hnodup := (nodup_texts_iff hkeys (simple_of_converted h)).mpr hclear
  obtain ⟨before, after, rfl⟩ := List.append_of_mem hmem
  refine foundIn_of_last h fun entry hentry htext => ?_
  rw [List.map_append, List.map_cons] at hnodup
  have hfresh := (List.nodup_cons.mp hnodup.of_append_right).1
  exact hfresh (htext ▸ List.mem_map_of_mem hentry)

/-- The conversion of a part is a part of the conversion of the whole, unless an entry above it is
replaced. -/
theorem exists_part {part : Value} {whole : Json} (hpart : PartOf part v) (hkeyed : v.Keyed)
    (hclear : v.Unambiguous) (h : v.toJson = .ok whole) :
    ∃ j, part.toJson = .ok j ∧ Json.PartOf j whole := by
  induction hpart generalizing whole with
  | whole => exact ⟨whole, h, .whole⟩
  | @item item items hmem _ ih =>
      obtain ⟨js, hjs, rfl⟩ := toJson_sequence_eq_ok_iff.mp h
      obtain ⟨before, after, rfl⟩ := List.append_of_mem hmem
      obtain ⟨front, j, rest, rfl, hitem, -⟩ := exists_split_of_forall₂ hjs
      have hpart : PartOf item (.sequence (before ++ item :: after)) := .item hmem .whole
      obtain ⟨inner, hinner, hinnerpart⟩ := ih (hkeyed.part hpart) (hclear.part hpart) hitem
      exact ⟨inner, hinner, .item (by simp) hinnerpart⟩
  | @entry key value entries hmem _ ih =>
      obtain ⟨converted, hconverted, rfl⟩ := toJson_mapping_eq_ok_iff.mp h
      obtain ⟨text, j, -, hvalue, hfind⟩ := foundIn_of_mem (hkeyed entries .whole)
        (hclear entries .whole) hconverted hmem
      have hpart : PartOf value (.mapping entries) := .entry hmem .whole
      obtain ⟨inner, hinner, hinnerpart⟩ := ih (hkeyed.part hpart) (hclear.part hpart) hvalue
      exact ⟨inner, hinner, .member (Json.Members.mem_of_find? hfind) hinnerpart⟩
  | @tagged tag value _ ih =>
      have hpart : PartOf value (.tagged tag value) := .tagged .whole
      rw [toJson] at h
      exact ih (hkeyed.part hpart) (hclear.part hpart) h

/-- If a value is converted, so are its parts. -/
theorem exists_toJson_part {part : Value} (hpart : PartOf part v) (h : ∃ j, v.toJson = .ok j) :
    ∃ j, part.toJson = .ok j :=
  exists_toJson_iff.mpr fun inner hinner => exists_toJson_iff.mp h inner (hinner.trans hpart)

/-- In a value without repeated keys, such as every loaded one, entries become different members of
the object, each with its value under its text, unless a string is the text of another key. In any
case the last entry with a text is found under it. -/
theorem entries_distinct {whole : Json} (hkeyed : v.Keyed) (h : v.toJson = .ok whole)
    (hpart : PartOf (.mapping entries) v) :
    ∃ members, (mapping entries).toJson = .ok (.object members) ∧
      (members.length = entries.length ↔ ¬ Ambiguous entries) ∧
      (¬ Ambiguous entries → ∀ key value, (key, value) ∈ entries → FoundIn members key value) ∧
      (∀ before key value after, entries = before ++ (key, value) :: after →
        (∀ entry ∈ after, entry.1.keyText? ≠ key.keyText?) → FoundIn members key value) ∧
      (v.Unambiguous → Json.PartOf (.object members) whole) := by
  have hkeys := hkeyed entries hpart
  obtain ⟨j, hj⟩ := exists_toJson_part hpart ⟨whole, h⟩
  obtain ⟨converted, hconverted, rfl⟩ := toJson_mapping_eq_ok_iff.mp hj
  refine ⟨Json.Members.ofList converted, hj, length_members_iff hkeys hconverted,
    fun hclear key value => foundIn_of_mem hkeys hclear hconverted, ?_, fun hclear => ?_⟩
  · rintro before key value after rfl hlast
    exact foundIn_of_last hconverted hlast
  · obtain ⟨object, hobject, hobjectpart⟩ := exists_part hpart hkeyed hclear h
    cases hobject.symm.trans hj
    exact hobjectpart

/-- An integer, a double and a boolean as three different keys. -/
theorem entries_distinct_kinds :
    ∃ members, (mapping [(number (.integer ⟨1, by decide, by decide⟩), string "x"),
        (number (.double (Double.ofInt 1 (by decide))), string "y"),
        (bool true, string "z")]).toJson = .ok (.object members) ∧ members.length = 3 := by
  have hkeyed : (mapping [(number (.integer ⟨1, by decide, by decide⟩), string "x"),
      (number (.double (Double.ofInt 1 (by decide))), string "y"),
      (bool true, string "z")]).Keyed := by
    refine .mapping (by simp [Unrepeated, same, Number.same]) fun entry hentry => ?_
    simp only [List.mem_cons, List.not_mem_nil, or_false] at hentry
    rcases hentry with rfl | rfl | rfl <;> exact .string
  obtain ⟨members, hjson, hlength, -⟩ := entries_distinct hkeyed rfl .whole
  refine ⟨members, hjson, hlength.mpr ?_⟩
  rintro ⟨text, value, hmem, -⟩
  simp at hmem

/-- A document in which a string replaces the number with the same text. -/
theorem entry_replaced :
    ∃ key value other members, (mapping [(key, value), other]).Keyed ∧
      (ofText? "1: a\n\"1\": b\n").any (same (mapping [(key, value), other])) = true ∧
      (mapping [(key, value), other]).toJson = .ok (.object members) ∧
      members.length = 1 ∧ ¬ FoundIn members key value := by
  refine ⟨number (.integer ⟨1, by decide, by decide⟩), string "a", (string "1", string "b"),
    [("1", .string "b")], ?_, by decide +kernel, rfl, rfl, ?_⟩
  · refine .mapping (by simp [Unrepeated, same]) fun entry hentry => ?_
    simp only [List.mem_cons, List.not_mem_nil, or_false] at hentry
    rcases hentry with rfl | rfl <;> exact .string
  · rintro ⟨text, j, ⟨⟩, ⟨⟩, hfind⟩
    exact absurd (Json.string.inj (Option.some.inj hfind)) (by decide)

end SchemaCheck.Yaml.Value
