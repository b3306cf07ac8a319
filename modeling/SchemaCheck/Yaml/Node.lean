import SchemaCheck.Text.Utf8

/-!
The nodes of a document, before scalars are typed and aliases are replaced.
-/

namespace SchemaCheck.Yaml

open Utf8 (Bytes)

/-- The properties of a node: the number of its anchor and its full tag. -/
structure Properties where
  anchor : Option Nat
  tag : Option Bytes

inductive Node where
  | aliasOf (anchor : Nat)
  | scalar (properties : Properties) (plain : Bool) (text : String)
  | sequence (properties : Properties) (items : List Node)
  | mapping (properties : Properties) (entries : List (Node × Node))
  deriving Inhabited

namespace Node

/-- The node of an empty text. -/
def empty : Node := scalar ⟨none, none⟩ true ""

def properties? : Node → Option Properties
  | aliasOf _ => none
  | scalar p _ _ => some p
  | sequence p _ => some p
  | mapping p _ => some p

mutual

/-- The nodes with the anchor `n`, in the order in which they begin. -/
def anchoredBy (n : Nat) : Node → List Node
  | aliasOf _ => []
  | scalar p plain text => if p.anchor = some n then [scalar p plain text] else []
  | sequence p items =>
    (if p.anchor = some n then [sequence p items] else []) ++ anchoredItems n items
  | mapping p entries =>
    (if p.anchor = some n then [mapping p entries] else []) ++ anchoredEntries n entries

def anchoredItems (n : Nat) : List Node → List Node
  | [] => []
  | item :: rest => anchoredBy n item ++ anchoredItems n rest

def anchoredEntries (n : Nat) : List (Node × Node) → List Node
  | [] => []
  | (key, value) :: rest => anchoredBy n key ++ anchoredBy n value ++ anchoredEntries n rest

end

mutual

/-- The number of parser events of the nodes: two for the start and the end of a collection, and one
for any other node. -/
def weight : Node → Nat
  | aliasOf _ => 1
  | scalar _ _ _ => 1
  | sequence _ items => 2 + weightItems items
  | mapping _ entries => 2 + weightEntries entries

def weightItems : List Node → Nat
  | [] => 0
  | item :: rest => weight item + weightItems rest

def weightEntries : List (Node × Node) → Nat
  | [] => 0
  | (key, value) :: rest => weight key + weight value + weightEntries rest

end

end Node

end SchemaCheck.Yaml
