import Mathlib.Tactic.IntervalCases
import SchemaCheck.Text.Percent

/-!
Decoding inverts encoding, character by character, for UTF-8 and for percent-encoding. Decoding the
UTF-8 bytes of a text never inserts a replacement character, and percent-decoding requires that the
percent sign itself is encoded.
-/

namespace SchemaCheck

namespace Utf8

theorem encodeChars_cons (c : Char) (s : List Char) :
    encodeChars (c :: s) = String.utf8EncodeChar c ++ encodeChars s :=
  List.flatMap_cons

theorem encodeChars_append (s t : List Char) :
    encodeChars (s ++ t) = encodeChars s ++ encodeChars t :=
  List.flatMap_append

theorem lead_ascii {b : Nat} (h : b ≤ 0x7F) : lead b = .char (Char.ofNat b) := by
  rw [lead, if_pos h]

theorem lead_two {b : Nat} (hlow : 0xC2 ≤ b) (hhigh : b ≤ 0xDF) :
    lead b = .start ⟨1, 0x80, 0xBF, b - 0xC0⟩ := by
  rw [lead, if_neg (by omega), if_pos ⟨hlow, hhigh⟩]

/-- The second of three bytes has narrower bounds after two of the first bytes, which excludes
shorter characters and surrogates. -/
theorem lead_three {b : Nat} (hlow : 0xE0 ≤ b) (hhigh : b ≤ 0xEF) :
    lead b = .start
      ⟨2, if b = 0xE0 then 0xA0 else 0x80, if b = 0xED then 0x9F else 0xBF, b - 0xE0⟩ := by
  interval_cases b <;> rfl

/-- The second of four bytes has narrower bounds after two of the first bytes, which excludes
shorter characters and values beyond the last plane. -/
theorem lead_four {b : Nat} (hlow : 0xF0 ≤ b) (hhigh : b ≤ 0xF4) :
    lead b = .start
      ⟨3, if b = 0xF0 then 0x90 else 0x80, if b = 0xF4 then 0x8F else 0xBF, b - 0xF0⟩ := by
  interval_cases b <;> rfl

theorem Pending.next_last {low high value b : Nat} (hlow : low ≤ b) (hhigh : b ≤ high) :
    Pending.next ⟨1, low, high, value⟩ b = .char (Char.ofNat (value * 64 + (b - 0x80))) := by
  rw [Pending.next, if_pos ⟨hlow, hhigh⟩, if_pos (le_refl 1)]

theorem Pending.next_more {owed low high value b : Nat} (hlow : low ≤ b) (hhigh : b ≤ high) :
    Pending.next ⟨owed + 2, low, high, value⟩ b =
      .start ⟨owed + 1, 0x80, 0xBF, value * 64 + (b - 0x80)⟩ := by
  rw [Pending.next, if_pos ⟨hlow, hhigh⟩, if_neg (by dsimp only; omega)]
  rfl

section

variable {n : Nat} {rest : Bytes} {p q : Pending} {c : Char}

theorem toNat_byte (h : n < 256) : (UInt8.ofNat n).toNat = n := by
  rw [UInt8.toNat_ofNat', Nat.mod_eq_of_lt h]

theorem decodeLossyFrom_of_lead_char (hn : n < 256) (h : lead n = .char c) :
    decodeLossyFrom none (UInt8.ofNat n :: rest) = c :: decodeLossyFrom none rest := by
  rw [decodeLossyFrom, toNat_byte hn, h]

theorem decodeLossyFrom_of_lead_start (hn : n < 256) (h : lead n = .start p) :
    decodeLossyFrom none (UInt8.ofNat n :: rest) = decodeLossyFrom (some p) rest := by
  rw [decodeLossyFrom, toNat_byte hn, h]

theorem decodeLossyFrom_of_next_char (hn : n < 256) (h : p.next n = .char c) :
    decodeLossyFrom (some p) (UInt8.ofNat n :: rest) = c :: decodeLossyFrom none rest := by
  rw [decodeLossyFrom, toNat_byte hn, h]

theorem decodeLossyFrom_of_next_start (hn : n < 256) (h : p.next n = .start q) :
    decodeLossyFrom (some p) (UInt8.ofNat n :: rest) = decodeLossyFrom (some q) rest := by
  rw [decodeLossyFrom, toNat_byte hn, h]

end

/-!
The value of a character is recovered from the digits in its bytes.
-/

section

variable {v : Nat} (rest : Bytes)

theorem decodeLossyFrom_two (hlow : 0x7F < v) (hhigh : v ≤ 0x7FF) :
    decodeLossyFrom none
        (UInt8.ofNat (v / 64 % 32 + 192) :: UInt8.ofNat (v % 64 + 128) :: rest) =
      Char.ofNat v :: decodeLossyFrom none rest := by
  rw [decodeLossyFrom_of_lead_start (by omega) (lead_two (by omega) (by omega)),
    decodeLossyFrom_of_next_char (by omega)
      (Pending.next_last (by omega) (by omega))]
  have hvalue : (v / 64 % 32 + 192 - 0xC0) * 64 + (v % 64 + 128 - 0x80) = v := by omega
  rw [hvalue]

theorem decodeLossyFrom_three (hlow : 0x7FF < v) (hhigh : v ≤ 0xFFFF)
    (hvalid : v < 0xD800 ∨ 0xDFFF < v) :
    decodeLossyFrom none
        (UInt8.ofNat (v / 4096 % 16 + 224) :: UInt8.ofNat (v / 64 % 64 + 128) ::
          UInt8.ofNat (v % 64 + 128) :: rest) =
      Char.ofNat v :: decodeLossyFrom none rest := by
  rw [decodeLossyFrom_of_lead_start (by omega) (lead_three (by omega) (by omega)),
    decodeLossyFrom_of_next_start (by omega)
      (Pending.next_more (by split <;> omega) (by split <;> omega)),
    decodeLossyFrom_of_next_char (by omega)
      (Pending.next_last (by omega) (by omega))]
  have hvalue : ((v / 4096 % 16 + 224 - 0xE0) * 64 + (v / 64 % 64 + 128 - 0x80)) * 64 +
      (v % 64 + 128 - 0x80) = v := by omega
  rw [hvalue]

theorem decodeLossyFrom_four (hlow : 0xFFFF < v) (hhigh : v < 0x110000) :
    decodeLossyFrom none
        (UInt8.ofNat (v / 262144 % 8 + 240) :: UInt8.ofNat (v / 4096 % 64 + 128) ::
          UInt8.ofNat (v / 64 % 64 + 128) :: UInt8.ofNat (v % 64 + 128) :: rest) =
      Char.ofNat v :: decodeLossyFrom none rest := by
  rw [decodeLossyFrom_of_lead_start (by omega) (lead_four (by omega) (by omega)),
    decodeLossyFrom_of_next_start (by omega)
      (Pending.next_more (by split <;> omega) (by split <;> omega)),
    decodeLossyFrom_of_next_start (by omega)
      (Pending.next_more (by omega) (by omega)),
    decodeLossyFrom_of_next_char (by omega)
      (Pending.next_last (by omega) (by omega))]
  have hvalue : (((v / 262144 % 8 + 240 - 0xF0) * 64 + (v / 4096 % 64 + 128 - 0x80)) * 64 +
      (v / 64 % 64 + 128 - 0x80)) * 64 + (v % 64 + 128 - 0x80) = v := by omega
  rw [hvalue]

end

theorem decodeLossyFrom_char_append (c : Char) (rest : Bytes) :
    decodeLossyFrom none (String.utf8EncodeChar c ++ rest) = c :: decodeLossyFrom none rest := by
  have hvalid : c.toNat < 0xD800 ∨ 0xDFFF < c.toNat ∧ c.toNat < 0x110000 := c.valid
  have hval : c.val.toNat = c.toNat := rfl
  have hchar : Char.ofNat c.toNat = c := Char.ofNat_toNat c
  unfold String.utf8EncodeChar
  rw [hval]
  generalize c.toNat = v at hvalid hchar
  rw [← hchar]
  dsimp only
  split
  next hone => exact decodeLossyFrom_of_lead_char (by omega) (lead_ascii hone)
  next hone =>
    split
    next htwo => exact decodeLossyFrom_two rest (by omega) htwo
    next htwo =>
      split
      next hthree => exact decodeLossyFrom_three rest (by omega) hthree (by omega)
      next hthree => exact decodeLossyFrom_four rest (by omega) (by omega)

theorem decodeLossyFrom_encodeChars (s : List Char) : decodeLossyFrom none (encodeChars s) = s := by
  induction s with
  | nil => rfl
  | cons c rest ih => rw [encodeChars_cons, decodeLossyFrom_char_append, ih]

end Utf8

namespace Percent

open Utf8 (Bytes encodeChars)

theorem utf8EncodeChar_ascii {c : Char} (h : c.toNat ≤ 0x7F) :
    String.utf8EncodeChar c = [UInt8.ofNat c.toNat] := by
  have hval : c.val.toNat ≤ 127 := h
  rw [String.utf8EncodeChar, if_pos hval]
  rfl

/-- A hexadecimal digit is one byte and has the value that it was written for. -/
theorem hexValue?_hexDigit {n : Nat} (h : n < 16) :
    ∃ b, String.utf8EncodeChar (hexDigit n) = [b] ∧ hexValue? b = some n := by
  interval_cases n <;> exact ⟨_, rfl, rfl⟩

theorem decodeBytes_encodeByte_append (b : UInt8) (rest : Bytes) :
    decodeBytes (encodeChars (encodeByte b) ++ rest) = b :: decodeBytes rest := by
  have hb : b.toNat < 256 := b.toNat_lt
  obtain ⟨x, hx, hhigh⟩ := hexValue?_hexDigit (show b.toNat / 16 < 16 by omega)
  obtain ⟨y, hy, hlow⟩ := hexValue?_hexDigit (show b.toNat % 16 < 16 by omega)
  have hbytes : encodeChars (encodeByte b) = [0x25, x, y] := by
    rw [encodeByte, Utf8.encodeChars_cons, Utf8.encodeChars_cons, Utf8.encodeChars_cons, hx, hy]
    rfl
  have hvalue : b.toNat / 16 * 16 + b.toNat % 16 = b.toNat := by omega
  rw [hbytes, List.cons_append, List.cons_append, List.cons_append, List.nil_append, decodeBytes,
    hhigh, hlow]
  dsimp only
  rw [hvalue, UInt8.ofNat_toNat]

theorem decodeBytes_encodeBytes_append (bytes rest : Bytes) :
    decodeBytes (encodeChars (bytes.flatMap encodeByte) ++ rest) = bytes ++ decodeBytes rest := by
  induction bytes with
  | nil => rfl
  | cons b bytes ih =>
      rw [List.flatMap_cons, Utf8.encodeChars_append, List.append_assoc,
        decodeBytes_encodeByte_append, ih, List.cons_append]

theorem decodeBytes_cons_of_ne {b : UInt8} (h : b ≠ 0x25) (rest : Bytes) :
    decodeBytes (b :: rest) = b :: decodeBytes rest := by
  rw [decodeBytes]
  rintro _ _ _ rfl
  exact absurd rfl h

theorem decodeBytes_encodeChar_append {reserved : Char → Bool} (hpercent : reserved '%' = true)
    (c : Char) (rest : Bytes) :
    decodeBytes (encodeChars (encodeChar reserved c) ++ rest) =
      String.utf8EncodeChar c ++ decodeBytes rest := by
  unfold encodeChar
  split
  next => exact decodeBytes_encodeBytes_append _ _
  next hplain =>
    obtain ⟨hascii, -, hreserved⟩ : c.toNat < 0x7F ∧ 0x20 ≤ c.toNat ∧ ¬ reserved c := by
      simpa [not_or] using hplain
    have hbytes := utf8EncodeChar_ascii (show c.toNat ≤ 0x7F by omega)
    have hne : UInt8.ofNat c.toNat ≠ 0x25 := by
      intro heq
      have hvalue : c.toNat = 0x25 := by
        rw [← Utf8.toNat_byte (show c.toNat < 256 by omega), heq]
        rfl
      exact hreserved (by rwa [← Char.ofNat_toNat c, hvalue])
    rw [Utf8.encodeChars_cons, hbytes]
    exact decodeBytes_cons_of_ne hne rest

/-- Percent-decoding inverts percent-encoding if the percent sign is encoded. -/
theorem decodeBytes_encode {reserved : Char → Bool} (hpercent : reserved '%' = true)
    (s : List Char) : decodeBytes (encodeChars (encode reserved s)) = encodeChars s := by
  induction s with
  | nil => rfl
  | cons c rest ih =>
      rw [encode, List.flatMap_cons, Utf8.encodeChars_append, decodeBytes_encodeChar_append hpercent,
        Utf8.encodeChars_cons]
      exact congrArg _ ih

/-- A percent-encoded text is decoded to itself. -/
theorem decodeLossy_decode_encode {reserved : Char → Bool} (hpercent : reserved '%' = true)
    (s : List Char) :
    Utf8.decodeLossy (decode (String.ofList (encode reserved s))) = String.ofList s := by
  rw [Utf8.decodeLossy, decode, Utf8.encode, String.toList_ofList, decodeBytes_encode hpercent,
    Utf8.decodeLossyFrom_encodeChars]

end Percent

end SchemaCheck
