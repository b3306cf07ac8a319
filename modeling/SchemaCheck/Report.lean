import SchemaCheck.Violation

/-!
Reports: the violations of one call, sorted by their full text.
-/

namespace SchemaCheck

structure Report where
  violations : List Violation
  deriving Inhabited

/-- The error for a report with violations. -/
structure Invalid where
  count : Nat
  report : String
  deriving DecidableEq

namespace Invalid

def message (i : Invalid) : String :=
  "jsonschema validation failed with " ++ toString i.count ++ " errors:" ++ i.report

end Invalid

namespace Report

/-- Sorts by display text; violations with equal texts keep their order. -/
def sorted (violations : List Violation) : Report :=
  let keyed := violations.map fun v => (v.display, v)
  ⟨(keyed.mergeSort fun a b => a.1 ≤ b.1).map (·.2)⟩

def size (r : Report) : Nat :=
  r.violations.length

def isEmpty (r : Report) : Bool :=
  r.violations.isEmpty

/-- The message, the location and the value of one violation. -/
def block (v : Violation) : String :=
  "\n-----\n" ++ v.message ++ "\n at path \n" ++ v.path.dotted ++ "\n in instance \n" ++
    (v.culprit.map Json.render).getD "null"

def display (r : Report) : String :=
  String.join (r.violations.map block)

def verdict (r : Report) : Except Invalid Unit :=
  if r.isEmpty then .ok () else .error ⟨r.size, r.display⟩

end Report

end SchemaCheck
