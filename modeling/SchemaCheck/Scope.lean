import SchemaCheck.Url.Parser

/-!
The stack of locators that relative references are joined with, innermost first. The base is at the
bottom and is never removed.
-/

namespace SchemaCheck

structure ScopeStack where
  base : Url
  pushed : List Url
  deriving DecidableEq

namespace ScopeStack

def ofBase (base : Url) : ScopeStack := ⟨base, []⟩

def current (s : ScopeStack) : Url :=
  s.pushed.head?.getD s.base

def push (u : Url) (s : ScopeStack) : ScopeStack :=
  { s with pushed := u :: s.pushed }

/-- The innermost scope that was pushed, and the stack without it. -/
def pop (s : ScopeStack) : Option Url × ScopeStack :=
  (s.pushed.head?, { s with pushed := s.pushed.tail })

def depth (s : ScopeStack) : Nat :=
  s.pushed.length

@[simp] theorem pop_push (u : Url) (s : ScopeStack) : (s.push u).pop = (some u, s) := rfl

@[simp] theorem current_push (u : Url) (s : ScopeStack) : (s.push u).current = u := rfl

end ScopeStack

end SchemaCheck
