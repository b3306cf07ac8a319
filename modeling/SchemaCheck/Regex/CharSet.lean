import SchemaCheck.Unicode.Folding

/-!
Symbolic sets of characters, with `CharSet.contains` as their membership test on code points.
-/

namespace SchemaCheck.Regex

inductive CharSet where
  | ranges (rs : Unicode.Ranges)
  | union (a b : CharSet)
  | inter (a b : CharSet)
  | diff (a b : CharSet)
  | symmDiff (a b : CharSet)
  | complement (a : CharSet)
  /-- The set with all characters that are equal to a member up to case. -/
  | folded (a : CharSet)
  /-- The same for ASCII letters only. -/
  | foldedAscii (a : CharSet)

namespace CharSet

def flipAsciiCase (n : Nat) : Nat :=
  if 0x41 ≤ n ∧ n ≤ 0x5A then n + 0x20
  else if 0x61 ≤ n ∧ n ≤ 0x7A then n - 0x20
  else n

def contains : CharSet → Nat → Bool
  | ranges rs, n => rs.contains n
  | union a b, n => contains a n || contains b n
  | inter a b, n => contains a n && contains b n
  | diff a b, n => contains a n && !contains b n
  | symmDiff a b, n => contains a n != contains b n
  | complement a, n => !contains a n
  | folded a, n => (Unicode.Folding.equivalents n).any fun m => contains a m
  | foldedAscii a, n => contains a n || contains a (flipAsciiCase n)

def empty : CharSet := ranges []

def single (n : Nat) : CharSet := ranges [(n, n)]

def any : CharSet := ranges [(0, 0x10FFFF)]

/-- An estimate of the number of automaton states for the set. -/
def weight : CharSet → Nat
  | ranges rs => rs.foldl (fun n r => n + if r.2 < 0x80 then 1 else 2) 0
  | union a b => weight a + weight b
  | inter a b => weight a + weight b
  | diff a b => weight a + weight b
  | symmDiff a b => weight a + weight b
  | complement a => weight a + 4
  | folded a => 2 * weight a
  | foldedAscii a => 2 * weight a

end CharSet

end SchemaCheck.Regex
