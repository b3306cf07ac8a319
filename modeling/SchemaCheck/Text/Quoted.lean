import SchemaCheck.Unicode.Category
import SchemaCheck.Unicode.Property

/-!
Quoted text for messages. Quotes, backslashes and invisible characters are escaped.
-/

namespace SchemaCheck.Quoted

/-- Categories of characters without a visible form. -/
def invisible : Unicode.Ranges :=
  ["cc", "cf", "cs", "co", "zs", "zl", "zp"].flatMap fun name =>
    (Unicode.Category.find? name).getD []

def isVisible (c : Char) : Bool :=
  if c.toNat < 0x7F then 0x20 ≤ c.toNat
  else
    Unicode.Category.assigned.contains c.toNat && !invisible.contains c.toNat &&
      !((Unicode.Property.find? "graphemeextend").getD []).contains c.toNat

def lowerHex (n : Nat) : List Char :=
  Nat.toDigits 16 n

def escapeChar (c : Char) : List Char :=
  if c = '"' then ['\\', '"']
  else if c = '\\' then ['\\', '\\']
  else if c = '\t' then ['\\', 't']
  else if c = '\n' then ['\\', 'n']
  else if c = '\r' then ['\\', 'r']
  else if c = '\x00' then ['\\', '0']
  else if isVisible c then [c]
  else ['\\', 'u', '\x7b'] ++ lowerHex c.toNat ++ ['\x7d']

def quote (s : String) : String :=
  String.ofList ('"' :: s.toList.flatMap escapeChar ++ ['"'])

end SchemaCheck.Quoted
