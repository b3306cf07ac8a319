import SchemaCheck.Number.Double

/-!
Decimal text of doubles. `Decimal.shortest` finds the shortest digits that round to the same double;
a `Decimal.Layout` describes the notation.
-/

namespace SchemaCheck

/-- The number `coefficient * 10 ^ exponent`. -/
structure Decimal where
  coefficient : Nat
  exponent : Int
  deriving DecidableEq, Inhabited

namespace Decimal

/-- Whether `c * 10 ^ p` lies between `low / den` and `high / den`; `closed` includes the bounds. -/
def within (low high den : Nat) (closed : Bool) (c : Nat) (p : Int) : Bool :=
  let value := c * Nat.pow 10 p.toNat * den
  let unit := Nat.pow 10 (-p).toNat
  if closed then low * unit ≤ value && value ≤ high * unit
  else low * unit < value && value < high * unit

/-- The multiple `c` of `10 ^ p` nearest to `num / den` among its two neighbours that are within the
bounds; a tie is resolved to the even one. -/
def nearestOnGrid (num low high den : Nat) (closed : Bool) (p : Int) : Option Nat :=
  let value := num * Nat.pow 10 (-p).toNat
  let unit := den * Nat.pow 10 p.toNat
  let below := value / unit
  let rest := 2 * (value % unit)
  let inside := within low high den closed
  match inside below p && below != 0, inside (below + 1) p with
  | true, true => some (if rest < unit ∨ (rest = unit ∧ below % 2 = 0) then below else below + 1)
  | true, false => some below
  | false, true => some (below + 1)
  | false, false => none

/-- Tries the powers of ten from the greatest on, at most `steps` of them. -/
def search (num low high den : Nat) (closed : Bool) : Nat → Int → Decimal
  | 0, p => ⟨num * Nat.pow 10 (-p).toNat / (den * Nat.pow 10 p.toNat), p⟩
  | steps + 1, p =>
    match nearestOnGrid num low high den closed p with
    | some c => ⟨c, p⟩
    | none => search num low high den closed steps (p - 1)

/-- The decimal with the fewest digits that rounds to `|x|`, and the nearest to it of those. -/
def shortest (x : Double) : Decimal :=
  if x.isZero then ⟨0, 0⟩
  else
    let num := 4 * x.num
    let half := 2 * Nat.pow 2 x.exponent.toNat
    let halfBelow := if x.mantissa = 0x10000000000000 ∧ x.exponent ≠ -1074 then half / 2 else half
    let den := 4 * x.den
    let top : Int := ((x.mantissa.log2 : Int) + x.exponent) * 30103 / 100000 + 2
    search num (num - halfBelow) (num + half) den (x.mantissa % 2 == 0) 24 top

/-- How a format writes a finite number. -/
structure Layout where
  /-- The exponents of the leading digit between which no exponent is written. -/
  least : Int
  greatest : Int
  /-- The mark before an exponent that is not negative. -/
  plus : String

def digits (n : Nat) : String :=
  String.ofList (Nat.toDigits 10 n)

/-- `0.000ddd`, `ddd.ddd` or `ddd000.0`. -/
def positional (text : String) (exponent : Int) : String :=
  let size : Int := text.length
  let point := size + exponent
  if 0 ≤ exponent then text ++ String.ofList (List.replicate exponent.toNat '0') ++ ".0"
  else if 0 < point then
    let whole := point.toNat
    String.ofList (text.toList.take whole) ++ "." ++ String.ofList (text.toList.drop whole)
  else "0." ++ String.ofList (List.replicate (-point).toNat '0') ++ text

/-- `d.ddde±dd`. -/
def scientific (layout : Layout) (text : String) (exponent : Int) : String :=
  let mantissa :=
    match text.toList with
    | [] => text
    | [_] => text
    | d :: rest => String.singleton d ++ "." ++ String.ofList rest
  let sign := if exponent < 0 then "-" else layout.plus
  mantissa ++ "e" ++ sign ++ digits exponent.natAbs

def write (layout : Layout) (d : Decimal) : String :=
  if d.coefficient = 0 then "0.0"
  else
    let text := digits d.coefficient
    let leading := d.exponent + text.length - 1
    if layout.least ≤ leading ∧ leading ≤ layout.greatest then positional text d.exponent
    else scientific layout text leading

end Decimal

/-- The text of `x`, sign included. -/
def Double.write (layout : Decimal.Layout) (x : Double) : String :=
  (if x.negative then "-" else "") ++ (Decimal.shortest x).write layout

end SchemaCheck
