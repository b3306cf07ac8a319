import SchemaCheck.Text.Utf8

/-!
Percent-encoding. Bytes outside ASCII are always encoded, other bytes depending on the component.
Decoding keeps a percent sign that is not followed by two hexadecimal digits.
-/

namespace SchemaCheck.Percent

open Utf8 (Bytes)

def hexDigit (n : Nat) : Char :=
  if n < 10 then Char.ofNat ('0'.toNat + n) else Char.ofNat ('A'.toNat + n - 10)

def encodeByte (b : UInt8) : List Char :=
  ['%', hexDigit (b.toNat / 16), hexDigit (b.toNat % 16)]

def encodeChar (reserved : Char → Bool) (c : Char) : List Char :=
  if 0x7F ≤ c.toNat ∨ c.toNat < 0x20 ∨ reserved c then
    (String.utf8EncodeChar c).flatMap encodeByte
  else [c]

def encode (reserved : Char → Bool) (s : List Char) : List Char :=
  s.flatMap (encodeChar reserved)

def hexValue? (b : UInt8) : Option Nat :=
  if 0x30 ≤ b ∧ b ≤ 0x39 then some (b.toNat - 0x30)
  else if 0x41 ≤ b ∧ b ≤ 0x46 then some (b.toNat - 0x41 + 10)
  else if 0x61 ≤ b ∧ b ≤ 0x66 then some (b.toNat - 0x61 + 10)
  else none

def decodeBytes : Bytes → Bytes
  | 0x25 :: a :: b :: rest =>
    match hexValue? a, hexValue? b with
    | some high, some low => UInt8.ofNat (high * 16 + low) :: decodeBytes rest
    | _, _ => 0x25 :: decodeBytes (a :: b :: rest)
  | b :: rest => b :: decodeBytes rest
  | [] => []

def decode (s : String) : Bytes :=
  decodeBytes (Utf8.encode s)

end SchemaCheck.Percent
