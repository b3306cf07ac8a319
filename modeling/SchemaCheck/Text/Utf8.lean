/-!
UTF-8 encoding and decoding. Strict decoding rejects malformed bytes; lossy decoding replaces each
longest malformed piece by U+FFFD.
-/

namespace SchemaCheck.Utf8

abbrev Bytes := List UInt8

def encodeChars (s : List Char) : Bytes :=
  s.flatMap String.utf8EncodeChar

def encode (s : String) : Bytes :=
  encodeChars s.toList

/-- A character whose first bytes have been read: the number of missing bytes, the bounds of the
next one, and the value so far. -/
structure Pending where
  owed : Nat
  low : Nat
  high : Nat
  value : Nat

/-- The role of a byte in first position. -/
inductive Lead where
  | char (c : Char)
  | start (p : Pending)
  | bad

def lead (b : Nat) : Lead :=
  if b ≤ 0x7F then .char (Char.ofNat b)
  else if 0xC2 ≤ b ∧ b ≤ 0xDF then .start ⟨1, 0x80, 0xBF, b - 0xC0⟩
  else if b = 0xE0 then .start ⟨2, 0xA0, 0xBF, 0⟩
  else if b = 0xED then .start ⟨2, 0x80, 0x9F, 0xD⟩
  else if 0xE1 ≤ b ∧ b ≤ 0xEF then .start ⟨2, 0x80, 0xBF, b - 0xE0⟩
  else if b = 0xF0 then .start ⟨3, 0x90, 0xBF, 0⟩
  else if 0xF1 ≤ b ∧ b ≤ 0xF3 then .start ⟨3, 0x80, 0xBF, b - 0xF0⟩
  else if b = 0xF4 then .start ⟨3, 0x80, 0x8F, 4⟩
  else .bad

def Pending.next (p : Pending) (b : Nat) : Lead :=
  let value := p.value * 64 + (b - 0x80)
  if p.low ≤ b ∧ b ≤ p.high then
    if p.owed ≤ 1 then .char (Char.ofNat value) else .start ⟨p.owed - 1, 0x80, 0xBF, value⟩
  else .bad

def replacement : Char := '\uFFFD'

def decodeLossyFrom : Option Pending → Bytes → List Char
  | none, [] => []
  | some _, [] => [replacement]
  | none, b :: rest =>
    match lead b.toNat with
    | .char c => c :: decodeLossyFrom none rest
    | .start p => decodeLossyFrom (some p) rest
    | .bad => replacement :: decodeLossyFrom none rest
  | some p, b :: rest =>
    match p.next b.toNat with
    | .char c => c :: decodeLossyFrom none rest
    | .start p => decodeLossyFrom (some p) rest
    | .bad =>
      replacement ::
        match lead b.toNat with
        | .char c => c :: decodeLossyFrom none rest
        | .start p => decodeLossyFrom (some p) rest
        | .bad => replacement :: decodeLossyFrom none rest

def decodeLossy (bytes : Bytes) : String :=
  String.ofList (decodeLossyFrom none bytes)

def decodeFrom? (done : List Char) : Option Pending → Bytes → Option (List Char)
  | none, [] => some done.reverse
  | some _, [] => none
  | none, b :: rest =>
    match lead b.toNat with
    | .char c => decodeFrom? (c :: done) none rest
    | .start p => decodeFrom? done (some p) rest
    | .bad => none
  | some p, b :: rest =>
    match p.next b.toNat with
    | .char c => decodeFrom? (c :: done) none rest
    | .start p => decodeFrom? done (some p) rest
    | .bad => none

def decode? (bytes : Bytes) : Option String :=
  (decodeFrom? [] none bytes).map String.ofList

end SchemaCheck.Utf8
