import SchemaCheck.Regex.CharSet

/-!
Regular expressions and their matches. `Regex.advance` maps a set of positions in a text to the set
of ends of all matches that start at one of them. A text matches if some match starts at any
position of it.
-/

namespace SchemaCheck

namespace Regex

/-- The character exists and is in the set. -/
def CharSet.holds (set : CharSet) : Option Char → Bool
  | some c => set.contains c.toNat
  | none => false

/-- Conditions on a position. Those with a set use it as the word characters. -/
inductive Look where
  | textStart | textEnd
  | lineStart | lineEnd
  /-- Lines that also end at a carriage return, with or without a line feed. -/
  | anyLineStart | anyLineEnd
  | boundary (word : CharSet) | noBoundary (word : CharSet)
  | wordStart (word : CharSet) | wordEnd (word : CharSet)
  | wordStartHalf (word : CharSet) | wordEndHalf (word : CharSet)

/-- The condition holds between two characters of the text, which are missing at its ends. -/
def Look.holds (before after : Option Char) : Look → Bool
  | textStart => before.isNone
  | textEnd => after.isNone
  | lineStart => before.isNone || before == some '\n'
  | lineEnd => after.isNone || after == some '\n'
  | anyLineStart =>
    before.isNone || before == some '\n' || before == some '\r' && after != some '\n'
  | anyLineEnd =>
    after.isNone || after == some '\r' || after == some '\n' && before != some '\r'
  | boundary word => word.holds before != word.holds after
  | noBoundary word => word.holds before == word.holds after
  | wordStart word => !word.holds before && word.holds after
  | wordEnd word => word.holds before && !word.holds after
  | wordStartHalf word => !word.holds before
  | wordEndHalf word => !word.holds after

end Regex

inductive Regex where
  | empty
  /-- A change of flags, which matches the empty text. -/
  | setFlags
  | oneOf (s : Regex.CharSet)
  | look (l : Regex.Look)
  | seq (a b : Regex)
  | alt (a b : Regex)
  /-- At least `least` and at most `most` repetitions, or without an upper bound. -/
  | repeated (a : Regex) (least : Nat) (most : Option Nat)
  /-- An expression written in a group or in a bracketed class, which add `levels` to its
  nesting. -/
  | nested (levels : Nat) (a : Regex)
  deriving Inhabited

namespace Regex

/-- A set of positions in ascending order. -/
abbrev Positions := List Nat

namespace Positions

/-- The union of two sets with at most `size` members in total. -/
def mergeUpTo : Nat → Positions → Positions → Positions
  | _, [], qs => qs
  | _, ps, [] => ps
  | 0, ps, _ => ps
  | size + 1, p :: ps, q :: qs =>
    if p < q then p :: mergeUpTo size ps (q :: qs)
    else if q < p then q :: mergeUpTo size (p :: ps) qs
    else p :: mergeUpTo size ps qs

def merge (ps qs : Positions) : Positions :=
  mergeUpTo (ps.length + qs.length) ps qs

end Positions

/-- Applies `step` `count` times, or until the set is empty. -/
def iterate (step : Positions → Positions) : Nat → Positions → Positions
  | 0, ps => ps
  | count + 1, ps =>
    match ps with
    | [] => []
    | ps => iterate step count (step ps)

/-- The positions reached by at most `count` applications of `step`, stopping when no new ones are
found. -/
def closure (step : Positions → Positions) : Nat → Positions → Positions
  | 0, ps => ps
  | count + 1, ps =>
    let next := Positions.merge ps (step ps)
    if next == ps then ps else closure step count next

def charBefore (text : Array Char) : Nat → Option Char
  | 0 => none
  | i + 1 => text[i]?

/-- The ends of the matches that start at one of the positions. For a repetition, as many rounds as
there are positions are enough. -/
def advance (text : Array Char) : Regex → Positions → Positions
  | empty, ps => ps
  | setFlags, ps => ps
  | oneOf s, ps => ps.filterMap fun i => if s.holds text[i]? then some (i + 1) else none
  | look l, ps => ps.filter fun i => l.holds (charBefore text i) text[i]?
  | seq a b, ps => advance text b (advance text a ps)
  | alt a b, ps => Positions.merge (advance text a ps) (advance text b ps)
  | repeated a least most, ps =>
    let rounds :=
      match most with
      | none => text.size + 1
      | some most => min (most - least) (text.size + 1)
    closure (advance text a) rounds (iterate (advance text a) least ps)
  | nested _ a, ps => advance text a ps

/-- The expression matches some part of the text. -/
def isMatch (r : Regex) (text : String) : Bool :=
  let chars := text.toList.toArray
  !(advance chars r (List.range (chars.size + 1))).isEmpty

/-- An estimate of the number of states of the compiled automaton. -/
def weight : Regex → Nat
  | empty => 1
  | setFlags => 0
  | oneOf s => s.weight + 1
  | look _ => 1
  | seq a b => weight a + weight b
  | alt a b => weight a + weight b + 1
  | repeated a least most =>
    weight a * max 1 (most.getD (least + 1)) + 1
  | nested _ a => weight a

def isSeq : Regex → Bool
  | seq _ _ => true
  | _ => false

def isAlt : Regex → Bool
  | alt _ _ => true
  | _ => false

/-- The depth of the syntax tree. A sequence of any number of parts is one level above them, and so
are alternatives, repetitions, groups, bracketed classes and the operators of classes. -/
def nesting : Regex → Nat
  | empty => 0
  | setFlags => 0
  | oneOf _ => 0
  | look _ => 0
  | seq a b => max (nesting a - a.isSeq.toNat) (nesting b - b.isSeq.toNat) + 1
  | alt a b => max (nesting a - a.isAlt.toNat) (nesting b - b.isAlt.toNat) + 1
  | repeated a _ _ => nesting a + 1
  | nested levels a => nesting a + levels

/-- The depth of the deepest alternative. -/
def alternativeNesting (r : Regex) : Nat :=
  r.nesting - r.isAlt.toNat

end Regex

end SchemaCheck
