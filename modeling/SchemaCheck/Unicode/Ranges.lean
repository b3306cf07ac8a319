/-!
Sets of code points as lists of closed ranges, and their compact text: hexadecimal bounds joined
by a hyphen, ranges separated by blanks.
-/

namespace SchemaCheck.Unicode

abbrev Ranges := List (Nat × Nat)

namespace Ranges

def contains (n : Nat) (ranges : Ranges) : Bool :=
  ranges.any fun range => range.1 ≤ n && n ≤ range.2

def hexValue (c : Char) : Nat :=
  if '0' ≤ c ∧ c ≤ '9' then c.toNat - '0'.toNat else c.toNat - 'A'.toNat + 10

/-- Parses the rest of the text, where `first` is the first bound of the current range if that is
complete, and `n` is the value of the current bound so far. -/
def ofChars (first : Option Nat) (n : Nat) : List Char → Ranges
  | [] => [(first.getD n, n)]
  | ' ' :: rest => (first.getD n, n) :: ofChars none 0 rest
  | '-' :: rest => ofChars (some n) 0 rest
  | c :: rest => ofChars first (n * 16 + hexValue c) rest

def ofLines (lines : List String) : Ranges :=
  lines.flatMap fun line => ofChars none 0 line.toList

end Ranges

/-- The ranges of the entry with the given name. -/
def lookup? (name : String) (table : List (List String × List String)) : Option Ranges :=
  (table.find? (·.1.contains name)).map (Ranges.ofLines ·.2)

end SchemaCheck.Unicode
