import SchemaCheck.Number.Decimal

/-!
Numbers of a document: integers of 64 bits, signed or unsigned, and doubles. `1` and `1.0` are equal
values of two different kinds.
-/

namespace SchemaCheck

/-- An integer from the signed or the unsigned range of 64 bits. -/
structure Integer where
  val : Int
  lower : -0x8000000000000000 ≤ val
  upper : val < 0x10000000000000000
  deriving DecidableEq

namespace Integer

def ofInt? (n : Int) : Option Integer :=
  if h : -0x8000000000000000 ≤ n ∧ n < 0x10000000000000000 then some ⟨n, h.1, h.2⟩ else none

def toDouble (n : Integer) : Double :=
  Double.ofInt n.val (by have := n.lower; have := n.upper; omega)

end Integer

namespace Json

inductive Number where
  | integer (n : Integer)
  | double (x : Double)
  deriving DecidableEq

namespace Number

/-- The value as a signed integer of 64 bits; a double is none, whatever its value. -/
def signed? : Number → Option Int
  | integer n => if n.val < 0x8000000000000000 then some n.val else none
  | double _ => none

/-- The value as an unsigned integer of 64 bits. -/
def unsigned? : Number → Option Int
  | integer n => if 0 ≤ n.val then some n.val else none
  | double _ => none

/-- The value as a double, an integer rounded to the nearest one. -/
def toDouble : Number → Double
  | integer n => n.toDouble
  | double x => x

/-- Order by value where both numbers are signed or both unsigned, and otherwise the order of
their doubles. -/
def compare (m n : Number) : Ordering :=
  match m.signed?, n.signed? with
  | some a, some b => Ord.compare a b
  | _, _ =>
    match m.unsigned?, n.unsigned? with
    | some a, some b => Ord.compare a b
    | _, _ => m.toDouble.compare n.toDouble

/-- Numbers are written with an exponent below `1e-5` and from `1e16` on. -/
def layout : Decimal.Layout := ⟨-5, 15, "+"⟩

def render : Number → String
  | integer n => toString n.val
  | double x => x.write layout

/-- The digits of a literal that fit in 64 bits, read from the left. -/
def readDigits (significand : Nat) : List Char → Nat × List Char
  | [] => (significand, [])
  | c :: rest =>
    let next := significand * 10 + (c.toNat - '0'.toNat)
    if next < 0x10000000000000000 then readDigits next rest else (significand, c :: rest)

/-- `x / 10 ^ 308`, repeated until the exponent left is at least `-308`; zero stays zero. -/
def descend (x : Double) : Nat → Int → Option (Double × Int)
  | 0, exponent => some (x, exponent)
  | steps + 1, exponent =>
    if -308 ≤ exponent then some (x, exponent)
    else if x.isZero then some (x, 0)
    else do
      let power ← Double.ofDecimal? false 1 308
      let y ← x.div? power
      descend y steps (exponent + 308)

/-- `significand * 10 ^ exponent`, rounded at the significand, at the power of ten and at their
product or quotient. -/
def scaled? (significand : Nat) (exponent : Int) : Option Double := do
  let x ← Double.ofRatio? false significand 1
  if 308 < exponent then
    if x.isZero then some x else none
  else
    let (y, left) ← descend x 4 exponent
    if 0 ≤ left then
      let power ← Double.ofDecimal? false 1 left
      y.mul? power
    else
      let power ← Double.ofDecimal? false 1 (-left)
      y.div? power

/-- The number that a literal denotes: the digits before and after the point, and the exponent if
one is written. It is an integer if it is written as one and fits in 64 bits; a literal beyond the
largest double is none. -/
def ofLiteral? (negative : Bool) (whole : List Char) (fraction : Option (List Char))
    (exponent : Option Int) : Option Number :=
  let (significand, dropped) := readDigits 0 whole
  let asDouble (significand : Nat) (exponent : Int) : Option Number :=
    (scaled? significand exponent).map fun x => double (if negative then x.neg else x)
  match fraction, exponent with
  | none, none =>
    match dropped with
    | [] =>
      let n : Int := if negative then -(significand : Int) else significand
      if negative ∧ significand = 0 then some (double (Double.zero true))
      else
        match Integer.ofInt? n with
        | some n => some (integer n)
        | none => asDouble significand 0
    | _ => asDouble significand dropped.length
  | none, some e => asDouble significand (dropped.length + e)
  | some digits, e =>
    let (significand, rest) := readDigits significand digits
    let used : Int := digits.length - rest.length
    asDouble significand (dropped.length - used + e.getD 0)

end Number

end Json

end SchemaCheck
