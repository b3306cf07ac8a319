import SchemaCheck.Yaml.Cursor

/-!
Block scalars: indented lines below a header, kept as they are or folded.
-/

namespace SchemaCheck.Yaml.Block

/-- The treatment of the line ends behind the last line. -/
inductive Chomping where
  | strip | clip | keep

structure Header where
  chomping : Chomping
  /-- The indentation indicator, if there is one. -/
  increment : Option Nat

def chomping? (c : Cursor) : Option (Chomping × Cursor) :=
  if c.isAt '+' then some (.keep, c.skip 1)
  else if c.isAt '-' then some (.strip, c.skip 1)
  else none

/-- An optional digit other than zero. -/
def increment? (c : Cursor) : Option (Option Nat × Cursor) :=
  match c.rest with
  | ch :: _ =>
    if ch = '0' then none
    else if ch.isDigit then some (some (ch.toNat - '0'.toNat), c.skip 1)
    else some (none, c)
  | [] => some (none, c)

/-- The two indicators of a header, in either order. -/
def header? (c : Cursor) : Option (Header × Cursor) := do
  match chomping? c with
  | some (chomping, c) =>
    let (increment, c) ← increment? c
    return (⟨chomping, increment⟩, c)
  | none =>
    let (increment, c) ← increment? c
    match increment, chomping? c with
    | some n, some (chomping, c) => return (⟨chomping, some n⟩, c)
    | _, _ => return (⟨.clip, increment⟩, c)

/-- Whether a column lies in the indentation, which is unbounded while it is unknown. -/
def inIndent (indent : Option Nat) (column : Nat) : Bool :=
  (indent.map fun n => decide (column < n)).getD true

/-- Skips indentation and empty lines; `most` is the greatest column seen. -/
def breaks? (indent : Option Nat) :
    Nat → Nat → List Char → Cursor → Option (Nat × List Char × Cursor)
  | 0, _, _, _ => none
  | fuel + 1, most, text, c =>
    let spaces := (c.rest.takeWhile (· == ' ')).length
    let c := c.skip ((indent.map fun n => min spaces (n - c.column)).getD spaces)
    let most := max most c.column
    if inIndent indent c.column && c.isAt '\t' then none
    else
      match c.newLine? with
      | some (newLine, c) => breaks? indent fuel most (text ++ newLine) c
      | none => some (most, text, c)

/-- Reads the lines at the indentation. `first` and `others` are the line ends behind the last line,
`spaced` is set if that line began with a blank, and `done` is reversed. -/
def lines? (literal : Bool) (indent size : Nat) :
    Nat → List Char → List Char → List Char → Bool → Cursor →
      Option (List Char × List Char × List Char × Cursor)
  | 0, _, _, _, _, _ => none
  | fuel + 1, done, first, others, spaced, c =>
    if c.column = indent ∧ !c.atEnd then do
      let blank := c.sees isBlank
      let joint :=
        if !literal ∧ first = ['\n'] ∧ !spaced ∧ !blank then
          if others.isEmpty then [' '] else []
        else first
      let (line, c) := c.takeWhile fun ch => !isBreak ch
      let (newLine, c) := c.newLine?.getD ([], c)
      let (_, more, c) ← breaks? (some indent) size 0 [] c
      let done := line.reverse ++ others.reverse ++ joint.reverse ++ done
      lines? literal indent size fuel done newLine more blank c
    else some (done, first, others, c)

/-- The text of a block scalar and the position behind it. `c` is at the indicator of the header,
and `outer` is the enclosing indentation, which is negative if there is none. -/
def read? (literal : Bool) (outer : Int) (size : Nat) (c : Cursor) : Option (String × Cursor) := do
  let (header, c) ← header? (c.skip 1)
  let c ← c.lineEnd?
  let asked := header.increment.map fun n => (max outer 0).toNat + n
  let (most, others, c) ← breaks? asked size 0 [] c.skipNewLine
  let indent := asked.getD (max (max most (outer + 1).toNat) 1)
  let (done, first, others, c) ← lines? literal indent size size [] [] others false c
  let ending := match header.chomping with
    | .strip => []
    | .clip => first
    | .keep => first ++ others
  return (String.ofList (done.reverse ++ ending), c)

end SchemaCheck.Yaml.Block
