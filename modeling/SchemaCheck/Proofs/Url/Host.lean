import SchemaCheck.Proofs.Url.Regular
import SchemaCheck.Url.Host

/-!
Characters that do not occur in encoded texts and in hosts. A reserved character of a component does
not occur in its encoding, and a host contains no character that would end it.
-/

namespace SchemaCheck

namespace Percent

def hexDigits : List Char :=
  "0123456789ABCDEF".toList

theorem hexDigit_mem {n : Nat} (h : n < 16) : hexDigit n ∈ hexDigits := by
  have hall : ∀ n < 16, hexDigit n ∈ hexDigits := by decide
  exact hall n h

theorem mem_encodeByte {c : Char} {b : UInt8} (h : c ∈ encodeByte b) :
    c = '%' ∨ c ∈ hexDigits := by
  have hb : b.toNat < 256 := b.toNat_lt
  simp only [encodeByte, List.mem_cons, List.not_mem_nil, or_false] at h
  rcases h with rfl | rfl | rfl
  · exact .inl rfl
  · exact .inr (hexDigit_mem (by omega))
  · exact .inr (hexDigit_mem (by omega))

/-- A character of an encoded text is an unreserved character of the text, or a percent sign or a
digit of an encoded one. -/
theorem mem_encode {reserved : Char → Bool} {s : List Char} {c : Char}
    (h : c ∈ encode reserved s) :
    (c ∈ s ∧ reserved c = false) ∨ c = '%' ∨ c ∈ hexDigits := by
  obtain ⟨d, hd, hc⟩ := List.mem_flatMap.mp h
  unfold encodeChar at hc
  split at hc
  · obtain ⟨b, -, hb⟩ := List.mem_flatMap.mp hc
    exact .inr (mem_encodeByte hb)
  next hplain =>
    cases List.mem_singleton.mp hc
    exact .inl ⟨hd, by simpa using fun h => hplain (.inr (.inr h))⟩

theorem not_mem_encode {reserved : Char → Bool} {s : List Char} {c : Char}
    (hhex : c ∉ '%' :: hexDigits) (h : reserved c = true ∨ c ∉ s) : c ∉ encode reserved s := by
  intro hmem
  rcases mem_encode hmem with ⟨hc, hplain⟩ | hc
  · rcases h with h | h
    · rw [h] at hplain
      cases hplain
    · exact h hc
  · exact hhex (List.mem_cons.mpr hc)

/-- Encoding adds no blanks. -/
theorem count_blank_encode_le (reserved : Char → Bool) (s : List Char) :
    (encode reserved s).count ' ' ≤ s.length := by
  induction s with
  | nil => exact Nat.le_refl _
  | cons c s ih =>
      have hchar : (encodeChar reserved c).count ' ' ≤ 1 := by
        unfold encodeChar
        split
        · rw [List.count_eq_zero_of_not_mem]
          · exact Nat.zero_le 1
          · intro hmem
            obtain ⟨b, -, hb⟩ := List.mem_flatMap.mp hmem
            rcases mem_encodeByte hb with h | h
            · cases h
            · exact absurd h (by decide)
        · exact List.count_le_length
      show (encodeChar reserved c ++ encode reserved s).count ' ' ≤ s.length + 1
      rw [List.count_append]
      omega

end Percent

namespace Url.Host

theorem lacks_of_subset {marks allowed : List Char} {text : String}
    (h : ∀ c ∈ text.toList, c ∈ allowed) (hmarks : marks.all (· ∉ allowed) = true) :
    Lacks marks text := by
  intro c hc hmem
  have hnot : c ∉ allowed := of_decide_eq_true (List.all_eq_true.mp hmarks c hc)
  exact hnot (h c hmem)

theorem mem_intercalate {c : Char} {mark : String} {parts : List String}
    (h : c ∈ (String.intercalate mark parts).toList) :
    c ∈ mark.toList ∨ ∃ part ∈ parts, c ∈ part.toList := by
  induction parts with
  | nil => simp at h
  | cons part rest ih =>
      cases rest with
      | nil =>
          rw [String.intercalate_singleton] at h
          exact .inr ⟨part, List.mem_cons_self, h⟩
      | cons next rest =>
          rw [String.intercalate_cons_cons] at h
          simp only [String.toList_append, List.mem_append] at h
          rcases h with (h | h) | h
          · exact .inr ⟨part, List.mem_cons_self, h⟩
          · exact .inl h
          · exact (ih h).imp_right fun ⟨p, hp, hc⟩ => ⟨p, List.mem_cons_of_mem _ hp, hc⟩

/-- The characters that addresses are written with. -/
def addressDigits : List Char :=
  "0123456789abcdef".toList

theorem digitChar_mem {n : Nat} (h : n < 16) : n.digitChar ∈ addressDigits := by
  have hall : ∀ n < 16, n.digitChar ∈ addressDigits := by decide
  exact hall n h

theorem mem_toDigits {base n : Nat} {c : Char} (hbase : 1 < base) (hle : base ≤ 16)
    (h : c ∈ Nat.toDigits base n) : c ∈ addressDigits := by
  induction n using Nat.strongRecOn with
  | _ n ih =>
      rw [Nat.toDigits_eq_if hbase] at h
      split at h
      next hlt =>
        cases List.mem_singleton.mp h
        exact digitChar_mem (by omega)
      next hge =>
        rcases List.mem_append.mp h with h | h
        · exact ih _ (Nat.div_lt_self (by omega) hbase) h
        · cases List.mem_singleton.mp h
          have hmod : n % base < base := Nat.mod_lt _ (by omega)
          exact digitChar_mem (by omega)

theorem isHost_writeIpv4 (address : Nat) : IsHost (writeIpv4 address) := by
  have hchars : ∀ c ∈ (writeIpv4 address).toList, c ∈ '.' :: addressDigits := by
    intro c hc
    rcases mem_intercalate hc with h | ⟨part, hpart, h⟩
    · cases List.mem_singleton.mp (show c ∈ ['.'] by simpa using h)
      exact List.mem_cons_self
    · obtain ⟨shift, -, rfl⟩ := List.mem_map.mp hpart
      have hdigit : c ∈ Nat.toDigits 10 (address / Nat.pow 2 shift % 256) := by simpa using h
      exact List.mem_cons_of_mem _ (mem_toDigits (by decide) (by decide) hdigit)
  exact ⟨lacks_of_subset hchars (by decide), .inl (lacks_of_subset hchars (by decide))⟩

theorem isHost_writeIpv6 (groups : List Nat) : IsHost (writeIpv6 groups) := by
  have hjoined {gs : List Nat} {c : Char} (h : c ∈ (String.intercalate ":" (gs.map lowerHex)).toList) :
      c ∈ ':' :: addressDigits := by
    rcases mem_intercalate h with h | ⟨part, hpart, h⟩
    · cases List.mem_singleton.mp (show c ∈ [':'] by simpa using h)
      exact List.mem_cons_self
    · obtain ⟨n, -, rfl⟩ := List.mem_map.mp hpart
      have hdigit : c ∈ Nat.toDigits 16 n := by simpa [lowerHex] using h
      exact List.mem_cons_of_mem _ (mem_toDigits (by decide) (by decide) hdigit)
  have hinner : ∃ inner, writeIpv6 groups = "[" ++ inner ++ "]" ∧
      ∀ c ∈ inner.toList, c ∈ ':' :: addressDigits := by
    refine ⟨_, rfl, fun c hc => ?_⟩
    split at hc
    · simp only [String.toList_append, List.mem_append] at hc
      rcases hc with (hc | hc) | hc
      · exact hjoined hc
      · have hcolon : c = ':' := by simpa using hc
        exact hcolon ▸ List.mem_cons_self
      · exact hjoined hc
    · exact hjoined hc
  obtain ⟨inner, hwrite, hchars⟩ := hinner
  have hall : ∀ c ∈ (writeIpv6 groups).toList, c ∈ '[' :: ']' :: ':' :: addressDigits := by
    intro c hc
    rw [hwrite] at hc
    simp only [String.toList_append, List.mem_append] at hc
    rcases hc with (hc | hc) | hc
    · exact List.mem_cons.mpr (.inl (by simpa using hc))
    · exact List.mem_cons_of_mem _ (List.mem_cons_of_mem _ (hchars c hc))
    · exact List.mem_cons_of_mem _ (List.mem_cons.mpr (.inl (by simpa using hc)))
  exact ⟨lacks_of_subset hall (by decide),
    .inr ⟨inner, hwrite, lacks_of_subset hchars (by decide)⟩⟩

theorem isHost_bracketed? {s : List Char} {host : String} (h : bracketed? s = .ok host) :
    IsHost host := by
  unfold bracketed? at h
  split at h
  · split at h
    · cases h
      exact isHost_writeIpv6 _
    · cases h
  · cases h

/-- A name without forbidden characters is a valid host. -/
theorem isHost_of_forbidden {text : String}
    (h : ∀ c ∈ ['/', '?', '#', '@', ':', '['], c ∉ text.toList) : IsHost text :=
  ⟨fun c hc => h c (by simp at hc ⊢; tauto), .inl fun c hc => h c (by simp at hc ⊢; tauto)⟩

theorem isHost_parse {s : List Char} {host : String} (h : parse s = .ok host) : IsHost host := by
  unfold parse at h
  split at h
  · exact isHost_bracketed? h
  · split at h
    · cases h
    · cases h
    next domain hne hdomain =>
      split at h
      · split at h
        · cases h
          exact isHost_writeIpv4 _
        · cases h
      · cases h
        refine isHost_of_forbidden fun c hc hmem => ?_
        have hallowed : domain.any isForbidden = false := by
          simp only [domain?, Option.bind_eq_bind, Option.bind_eq_some_iff] at hdomain
          obtain ⟨name, -, hif⟩ := hdomain
          grind
        rw [String.toList_ofList] at hmem
        have hplain := List.any_eq_false.mp hallowed c hmem
        simp only [List.mem_cons, List.not_mem_nil, or_false] at hc
        rcases hc with rfl | rfl | rfl | rfl | rfl | rfl <;> exact hplain (by decide)

theorem isHost_parseVerbatim {s : List Char} {host : String} (h : parseVerbatim s = .ok host) :
    IsHost host := by
  unfold parseVerbatim at h
  split at h
  · exact isHost_bracketed? h
  · dsimp only at h
    split at h
    · cases h
    next hallowed =>
      cases h
      refine isHost_of_forbidden fun c hc => ?_
      rw [String.toList_ofList]
      have hplain : c ∉ s := by
        intro hmem
        refine hallowed (List.any_eq_true.mpr ⟨c, hmem, ?_⟩)
        simp only [List.mem_cons, List.not_mem_nil, or_false] at hc
        rcases hc with rfl | rfl | rfl | rfl | rfl | rfl <;> decide
      refine Percent.not_mem_encode ?_ (.inr hplain)
      simp only [List.mem_cons, List.not_mem_nil, or_false] at hc
      rcases hc with rfl | rfl | rfl | rfl | rfl | rfl <;> decide

end Url.Host

end SchemaCheck
