import SchemaCheck.Yaml.Grammar
import SchemaCheck.Yaml.Scalar

/-!
The values of nodes. The value of an alias is that of the last node with the number of its anchor.
-/

namespace SchemaCheck.Yaml

open Utf8 (Bytes)

namespace Node

/-- The text without a leading exclamation mark, unless there is nothing else. -/
def withoutMark : List Char → List Char
  | '!' :: c :: rest => c :: rest
  | s => s

/-- The name of a custom tag, which begins with one or two exclamation marks. -/
def ownTag? (tag : Option Bytes) : Option String := do
  let text ← Utf8.decode? (← tag)
  match text.toList with
  | '!' :: rest => some (String.ofList (withoutMark (withoutMark ('!' :: rest))))
  | _ => none

/-- The value of a scalar. A custom tag does not determine the type. -/
def scalarValue? (tag : Option Bytes) (plain : Bool) (text : String) : Option Value :=
  let untyped := if plain then Scalar.plain? text else some (.string text)
  match tag with
  | none => untyped
  | some tag =>
    match (Utf8.decode? tag).bind Scalar.Core.ofTag? with
    | some core => core.read? text
    | none => if tag.head? = some 0x21 then untyped else some (.string text)

def withTag (tag : Option Bytes) (v : Value) : Value :=
  match ownTag? tag with
  | some tag => .tagged tag v
  | none => v

end Node

/-- A computation that counts the aliases followed so far. -/
abbrev Loading := StateT Nat Option

namespace Loading

/-- Counts an alias and returns its node. -/
def follow (root : Node) (limit n : Nat) : Loading Node := do
  let count := (← get) + 1
  set count
  if limit < count then failure
  else
    match (root.anchoredBy n).getLast? with
    | some target => return target
    | none => failure

/-- Adds an entry with a new key. -/
def insertEntry (key value : Value) (entries : List (Value × Value)) :
    Loading (List (Value × Value)) :=
  if entries.any fun entry => entry.1.same key then failure else return (key, value) :: entries

/-- The results of `f` in order. -/
def each {α β : Type} (f : α → Loading β) : List α → Loading (List β)
  | [] => return []
  | a :: rest => do
    let b ← f a
    return b :: (← each f rest)

/-- The entries in order; `done` is reversed. -/
def entries (f : Node → Loading Value) :
    List (Value × Value) → List (Node × Node) → Loading (List (Value × Value))
  | done, [] => return done.reverse
  | done, (key, value) :: rest => do
    let key ← f key
    let value ← f value
    entries f (← insertEntry key value done) rest

/-- The value of a node. At most one collection less than the given number may be nested. -/
def value (root : Node) (limit : Nat) : Nat → Node → Loading Value
  | 0, _ => failure
  | depth + 1, n => do
    let n ← match n with
      | .aliasOf number => follow root limit number
      | n => pure n
    match n with
    | .aliasOf _ => failure
    | .scalar p plain text =>
      match Node.scalarValue? p.tag plain text with
      | some v => return Node.withTag p.tag v
      | none => failure
    | .sequence p items =>
      if depth = 0 then failure
      else return Node.withTag p.tag (.sequence (← each (value root limit depth) items))
    | .mapping p pairs =>
      if depth = 0 then failure
      else return Node.withTag p.tag (.mapping (← entries (value root limit depth) [] pairs))

end Loading

namespace Value

/-- The number of aliases that may be followed per event of the nodes. -/
def aliasFactor : Nat := 100

def ofNode? (root : Node) : Option Value := do
  let limit := root.weight * aliasFactor
  let (v, _) ← (Loading.value root limit (Node.nestingLimit + 1) root).run 0
  return v

/-- The value of the document in a text, which is null if there is none. -/
def ofText? (text : String) : Option Value := do
  match ← Node.ofText? text.toList with
  | some root => ofNode? root
  | none => return null

end Value

end SchemaCheck.Yaml
