import SchemaCheck.Yaml.Node
import SchemaCheck.Yaml.Token

/-!
The parser of a single document from its tokens.
-/

namespace SchemaCheck.Yaml

open Utf8 (Bytes)

/-- The remaining tokens, the handles of tags, and the anchors by name. -/
structure Source where
  tokens : List Token
  handles : List (Bytes × Bytes)
  anchors : List (String × Nat)

abbrev Reading := StateT Source Option

namespace Reading

def peek : Reading Token := do
  match (← get).tokens with
  | t :: _ => return t
  | [] => failure

def advance : Reading Unit :=
  modify fun s => { s with tokens := s.tokens.tail }

/-- The number of a new anchor is the number of names in use. A name that is used again counts as
one, so that its new number is also that of the next new name. -/
def declareAnchor (name : String) : Reading Nat := do
  let s ← get
  let number := s.anchors.length
  set { s with anchors := (name, number) :: s.anchors.filter (·.1 ≠ name) }
  return number

def findAnchor (name : String) : Reading Nat := do
  match (← get).anchors.find? (·.1 = name) with
  | some (_, number) => return number
  | none => failure

/-- The full tag: the prefix of its handle followed by the text. -/
def resolveTag (handle text : Bytes) : Reading Bytes := do
  if handle.isEmpty then return text
  else
    match (← get).handles.find? (·.1 = handle) with
    | some (_, stem) => return stem ++ text
    | none => failure

/-- An optional anchor and an optional tag, in either order. -/
def properties : Reading (Option String × Option Bytes) := do
  match ← peek with
  | .anchor name =>
    advance
    match ← peek with
    | .tag handle text =>
      advance
      return (some name, some (← resolveTag handle text))
    | _ => return (some name, none)
  | .tag handle text =>
    advance
    match ← peek with
    | .anchor name =>
      advance
      return (some name, some (← resolveTag handle text))
    | _ => return (none, some (← resolveTag handle text))
  | _ => return (none, none)

end Reading

namespace Token

def endsBlockItem : Token → Bool
  | blockEntry => true
  | blockEnd => true
  | _ => false

def endsBlockPart : Token → Bool
  | key => true
  | value => true
  | blockEnd => true
  | _ => false

def endsFlowValue : Token → Bool
  | flowEntry => true
  | flowMappingEnd => true
  | _ => false

def endsFlowItem : Token → Bool
  | flowEntry => true
  | flowSequenceEnd => true
  | _ => false

def isValue : Token → Bool
  | value => true
  | _ => false

def startsDocument : Token → Bool
  | directive _ => true
  | documentStart => true
  | _ => false

def endsDocument : Token → Bool
  | documentEnd => true
  | streamEnd => true
  | t => t.startsDocument

end Token

namespace Reading

def wholeTag : Bytes := Property.bytesOf ['!']

mutual

/-- A node. `inBlock` allows block collections, and `open_` also the entries of a sequence at the
indentation of the enclosing mapping. At most `depth` more collections may be opened. -/
def node (fuel depth : Nat) (inBlock open_ : Bool) : Reading Node :=
  match fuel with
  | 0 => failure
  | fuel + 1 => do
    match ← peek with
    | .aliasOf name =>
      advance
      return .aliasOf (← findAnchor name)
    | _ =>
      let (name, tag) ← properties
      let t ← peek
      let anchor ← name.mapM declareAnchor
      let p : Properties := ⟨anchor, tag⟩
      match t, inBlock, open_ with
      | .blockEntry, _, true => return .sequence p (← indentless fuel (← inner depth))
      | .scalar plain text, _, _ =>
        advance
        return .scalar ⟨anchor, tag.filter (· ≠ wholeTag)⟩ plain text
      | .flowSequenceStart, _, _ =>
        advance
        return .sequence p (← flowItems fuel (← inner depth) true)
      | .flowMappingStart, _, _ =>
        advance
        return .mapping p (← flowEntries fuel (← inner depth) true)
      | .blockSequenceStart, true, _ =>
        advance
        return .sequence p (← blockItems fuel (← inner depth))
      | .blockMappingStart, true, _ =>
        advance
        return .mapping p (← blockEntries fuel (← inner depth))
      | _, _, _ => if name.isSome ∨ tag.isSome then return .scalar p true "" else failure
where
  inner : Nat → Reading Nat
    | 0 => failure
    | depth + 1 => pure depth

/-- A node, or the empty node in front of a token that ends it. -/
def nodeUnless (fuel depth : Nat) (inBlock open_ : Bool) (ends : Token → Bool) : Reading Node :=
  match fuel with
  | 0 => failure
  | fuel + 1 => do
    if ends (← peek) then return .empty else node fuel depth inBlock open_

/-- The node behind a colon, or the empty node if there is none. -/
def valueUnless (fuel depth : Nat) (inBlock : Bool) (ends : Token → Bool) : Reading Node :=
  match fuel with
  | 0 => failure
  | fuel + 1 => do
    if (← peek).isValue then
      advance
      nodeUnless fuel depth inBlock inBlock ends
    else return .empty

def blockItems (fuel depth : Nat) : Reading (List Node) :=
  match fuel with
  | 0 => failure
  | fuel + 1 => do
    match ← peek with
    | .blockEntry =>
      advance
      let item ← nodeUnless fuel depth true false Token.endsBlockItem
      return item :: (← blockItems fuel depth)
    | .blockEnd =>
      advance
      return []
    | _ => failure

/-- The entries of a sequence without start and end tokens. -/
def indentless (fuel depth : Nat) : Reading (List Node) :=
  match fuel with
  | 0 => failure
  | fuel + 1 => do
    match ← peek with
    | .blockEntry =>
      advance
      let item ← nodeUnless fuel depth true false fun t => t.endsBlockItem || t.endsBlockPart
      return item :: (← indentless fuel depth)
    | _ => return []

def blockEntries (fuel depth : Nat) : Reading (List (Node × Node)) :=
  match fuel with
  | 0 => failure
  | fuel + 1 => do
    match ← peek with
    | .key =>
      advance
      let key ← nodeUnless fuel depth true true Token.endsBlockPart
      let value ← valueUnless fuel depth true Token.endsBlockPart
      return (key, value) :: (← blockEntries fuel depth)
    | .blockEnd =>
      advance
      return []
    | _ => failure

/-- The items of a flow sequence. An item with an explicit key is a mapping of one entry. -/
def flowItems (fuel depth : Nat) (first : Bool) : Reading (List Node) :=
  match fuel with
  | 0 => failure
  | fuel + 1 => do
    match ← peek with
    | .flowSequenceEnd =>
      advance
      return []
    | t =>
      if !first then
        match t with
        | .flowEntry => advance
        | _ => failure
      match ← peek with
      | .flowSequenceEnd =>
        advance
        return []
      | .key =>
        advance
        let item ← flowPair fuel depth
        return item :: (← flowItems fuel depth false)
      | _ =>
        let item ← node fuel depth false false
        return item :: (← flowItems fuel depth false)

/-- A mapping of one entry inside a flow sequence. If its key is empty, the token behind the key
indicator is dropped with it. -/
def flowPair (fuel depth : Nat) : Reading Node :=
  match fuel, depth with
  | fuel + 1, depth + 1 => do
    let key ←
      if (← peek).isValue || (← peek).endsFlowItem then do
        advance
        pure Node.empty
      else node fuel depth false false
    let value ← valueUnless fuel depth false Token.endsFlowItem
    return .mapping ⟨none, none⟩ [(key, value)]
  | _, _ => failure

def flowEntries (fuel depth : Nat) (first : Bool) : Reading (List (Node × Node)) :=
  match fuel with
  | 0 => failure
  | fuel + 1 => do
    match ← peek with
    | .flowMappingEnd =>
      advance
      return []
    | t =>
      if !first then
        match t with
        | .flowEntry => advance
        | _ => failure
      match ← peek with
      | .flowMappingEnd =>
        advance
        return []
      | .key =>
        advance
        let key ← nodeUnless fuel depth false false fun t => t.isValue || t.endsFlowValue
        let value ← valueUnless fuel depth false Token.endsFlowValue
        return (key, value) :: (← flowEntries fuel depth false)
      | _ =>
        let key ← node fuel depth false false
        return (key, .empty) :: (← flowEntries fuel depth false)

end

/-- The handles that are defined without a directive. -/
def usualHandles : List (Bytes × Bytes) :=
  [(Property.bytesOf ['!'], Property.bytesOf ['!']),
    (Property.bytesOf ['!', '!'], Property.bytesOf "tag:yaml.org,2002:".toList)]

/-- Reads directives: at most one version, which must be supported, and each handle once. -/
def directives : Nat → Bool → Reading Unit
  | 0, _ => failure
  | fuel + 1, versioned => do
    match ← peek with
    | .directive (.version major minor) =>
      advance
      if !versioned ∧ major = 1 ∧ (minor = 1 ∨ minor = 2) then directives fuel true else failure
    | .directive (.tagHandle handle stem) =>
      advance
      let s ← get
      if (s.handles.map (·.1)).contains handle then failure
      else
        set { s with handles := (handle, stem) :: s.handles }
        directives fuel versioned
    | _ => modify fun s => { s with handles := s.handles ++ usualHandles }

def skipDocumentEnds : Nat → Reading Unit
  | 0 => failure
  | fuel + 1 => do
    match ← peek with
    | .documentEnd =>
      advance
      skipDocumentEnds fuel
    | _ => return ()

/-- The only document of a stream, or none if the stream is empty. -/
def document (fuel depth : Nat) : Reading (Option Node) := do
  match ← peek with
  | .streamEnd => return none
  | t =>
    directives fuel false
    let root ←
      if t.startsDocument then
        match ← peek with
        | .documentStart =>
          advance
          nodeUnless fuel depth true false Token.endsDocument
        | _ => failure
      else node fuel depth true false
    skipDocumentEnds fuel
    match ← peek with
    | .streamEnd => return some root
    | _ => failure

end Reading

namespace Node

/-- The greatest number of nested collections. -/
def nestingLimit : Nat := 128

/-- The root node of a text, or none if the text has no document. -/
def ofText? (text : List Char) : Option (Option Node) := do
  let tokens ← Token.ofText? text
  let (root, _) ← (Reading.document (4 * tokens.length + 4) nestingLimit).run ⟨tokens, [], []⟩
  return root

end Node

end SchemaCheck.Yaml
