import Mathlib.Data.List.Forall2
import SchemaCheck.Proofs.Keyword.Surrounding
import SchemaCheck.Json.Pointer

/-!
Schemas that differ only in the values of `anyOf` members, which are related lists. Lookups and
pointers lead to related values in both schemas, unless a pointer goes into such a list.
-/

namespace SchemaCheck.Json

variable {P : List Json → List Json → Prop}

/-- Two members of the same name with equal values, or two `anyOf` members with related lists. -/
inductive Members.Paired (P : List Json → List Json → Prop) :
    String × Json → String × Json → Prop
  | same (entry : String × Json) : Paired P entry entry
  | choices {l l' : List Json} : P l l' → Paired P ("anyOf", .array l) ("anyOf", .array l')

/-- Two lists of members that differ only in `anyOf`. -/
abbrev Members.Rearranged (P : List Json → List Json → Prop) : Members → Members → Prop :=
  List.Forall₂ (Paired P)

/-- Equal values, or objects with rearranged members. -/
inductive Rearranged (P : List Json → List Json → Prop) : Json → Json → Prop
  | same (j : Json) : Rearranged P j j
  | choices {l l' : List Json} : P l l' → Rearranged P (.array l) (.array l')
  | object {members others : Members} :
      members.Rearranged P others → Rearranged P (.object members) (.object others)

namespace Members

variable {members others : Members} {key : String}

theorem Rearranged.refl (members : Members) : members.Rearranged P members :=
  List.forall₂_same.mpr fun entry _ => .same entry

/-- An `anyOf` list is exchanged among unchanged members. -/
theorem rearranged_of_choices {l l' : List Json} (h : P l l') (before after : Members) :
    Members.Rearranged P (before ++ ("anyOf", .array l) :: after)
      (before ++ ("anyOf", .array l') :: after) :=
  List.rel_append (Rearranged.refl before) (.cons (.choices h) (Rearranged.refl after))

theorem Rearranged.flip (h : members.Rearranged P others) :
    others.Rearranged (fun l l' => P l' l) members := by
  induction h with
  | nil => exact .nil
  | cons hentry _ ih =>
      refine .cons ?_ ih
      cases hentry with
      | same => exact .same _
      | choices h => exact .choices h

theorem Rearranged.exists_mem (h : members.Rearranged P others) {entry' : String × Json}
    (hentry : entry' ∈ others) : ∃ entry ∈ members, Paired P entry entry' := by
  induction h with
  | nil => cases hentry
  | @cons entry _ _ _ hfirst _ ih =>
      rcases List.mem_cons.mp hentry with rfl | hrest
      · exact ⟨entry, List.mem_cons_self, hfirst⟩
      · obtain ⟨found, hfound, hpaired⟩ := ih hrest
        exact ⟨found, List.mem_cons_of_mem _ hfound, hpaired⟩

/-- Lookup under a key yields related values. -/
theorem Rearranged.find? (h : members.Rearranged P others) (key : String) :
    find? key members = find? key others ∨
      key = "anyOf" ∧ ∃ l l', P l l' ∧ find? key members = some (.array l) ∧
        find? key others = some (.array l') := by
  induction h with
  | nil => exact .inl rfl
  | @cons entry entry' rest rest' hentry _ ih =>
      cases hentry with
      | same entry =>
          obtain ⟨name, declared⟩ := entry
          simp only [Members.find?]
          split
          · exact .inl rfl
          · exact ih
      | choices h =>
          simp only [Members.find?]
          split
          next heq => exact .inr ⟨heq.symm, _, _, h, rfl, rfl⟩
          next => exact ih

theorem Rearranged.find?_eq (h : members.Rearranged P others) (hkey : key ≠ "anyOf") :
    Members.find? key members = Members.find? key others :=
  (h.find? key).resolve_right fun hchoices => hkey hchoices.1

/-- The members that keywords read from the surrounding schema are unchanged. -/
theorem Rearranged.alike (h : members.Rearranged P others) : members.Alike others :=
  fun _ hname => h.find?_eq fun heq => absurd (heq ▸ hname) (by decide)

end Members

namespace Rearranged

variable {j j' : Json} {key : String}

theorem flip (h : Rearranged P j j') : Rearranged (fun l l' => P l' l) j' j := by
  cases h with
  | same => exact .same j
  | choices h => exact .choices h
  | object h => exact .object h.flip

theorem get?_eq (h : Rearranged P j j') (hkey : key ≠ "anyOf") : j.get? key = j'.get? key := by
  cases h with
  | same => rfl
  | choices _ => rfl
  | object h => exact h.find?_eq hkey

/-- Only objects are rearrangements of objects. -/
theorem exists_object {members : Members} (h : Rearranged P (.object members) j') :
    ∃ others, j' = .object others ∧ members.Rearranged P others := by
  cases h with
  | same => exact ⟨members, rfl, .refl members⟩
  | object h => exact ⟨_, rfl, h⟩

theorem exists_object_left {others : Members} (h : Rearranged P j (.object others)) :
    ∃ members : Members, j = .object members ∧ members.Rearranged P others := by
  obtain ⟨members, hj, hmembers⟩ := h.flip.exists_object
  exact ⟨members, hj, hmembers.flip⟩

end Rearranged

/-- No token after an `anyOf` token. -/
def Pointer.Spares : List (List Char) → Prop
  | token :: _ :: _ => String.ofList (unescapeToken token) ≠ "anyOf"
  | _ => True

instance : DecidablePred Pointer.Spares
  | token :: _ :: _ =>
      inferInstanceAs (Decidable (String.ofList (Pointer.unescapeToken token) ≠ "anyOf"))
  | [_] => .isTrue trivial
  | [] => .isTrue trivial

/-- A pointer that does not go into an `anyOf` list leads to related values. -/
theorem Pointer.walk?_of_rearranged {members others : Members} (h : members.Rearranged P others)
    {tokens : List (List Char)} (hspares : Spares tokens) {j : Json}
    (hwalk : walk? tokens (.object members) = some j) :
    ∃ j', walk? tokens (.object others) = some j' ∧ Rearranged P j j' := by
  cases tokens with
  | nil =>
      cases hwalk
      exact ⟨_, rfl, .object h⟩
  | cons token rest =>
      rw [walk?, enter?] at hwalk ⊢
      rcases h.find? (String.ofList (unescapeToken token)) with heq | ⟨hkey, l, l', hl, hfind, hfind'⟩
      · rw [← heq]
        exact ⟨j, hwalk, .same j⟩
      · rw [hfind] at hwalk
        rw [hfind']
        cases rest with
        | nil =>
            cases hwalk
            exact ⟨_, rfl, .choices hl⟩
        | cons next rest => exact absurd hkey hspares

end SchemaCheck.Json
