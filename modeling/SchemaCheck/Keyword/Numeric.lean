import SchemaCheck.Walk

/-!
Keywords on numbers: bounds, which may exclude their limit, and divisibility.
-/

namespace SchemaCheck.Keyword

def flag (name : String) (schema : Json.Members) : Bool :=
  ((Json.Members.find? name schema).bind Json.bool?).getD false

def minimum : Keyword := fun _ declared subject schema =>
  match declared, subject.value with
  | .number limit, .number n =>
    let exclusive := flag "exclusiveMinimum" schema
    let order := n.compare limit
    let fails := order == .lt || exclusive && order == .eq
    let relation := if exclusive then "less than or equal to" else "less than"
    if fails then
      return [.ofMessage (subject.value.render ++ " is " ++ relation ++ " the minimum of " ++
        declared.render)]
    else return []
  | _, _ => return []

def maximum : Keyword := fun _ declared subject schema =>
  match declared, subject.value with
  | .number limit, .number n =>
    let exclusive := flag "exclusiveMaximum" schema
    let order := n.compare limit
    let fails := order == .gt || exclusive && order == .eq
    let relation := if exclusive then "greater than or equal to" else "greater than"
    if fails then
      return [.ofMessage (subject.value.render ++ " is " ++ relation ++ " the maximum of " ++
        declared.render)]
    else return []
  | _, _ => return []

/-- Whether `n` is a multiple of `d`: by the remainder of two signed or two unsigned integers, and
otherwise by the rounded quotient of doubles. Every number is a multiple of zero. -/
def isMultiple (n d : Json.Number) : Except Failure Bool :=
  match n.signed?, d.signed? with
  | some a, some b =>
    if b = 0 then .ok true
    else if a = -0x8000000000000000 ∧ b = -1 then .error .remainderOverflow
    else .ok (a % b = 0)
  | _, _ =>
    match n.unsigned?, d.unsigned? with
    | some a, some b => .ok (b = 0 || a % b = 0)
    | _, _ =>
      if d.toDouble.isZero then .ok true
      else
        match n.toDouble.div? d.toDouble with
        | some quotient => .ok quotient.isInteger
        | none => .ok false

def multipleOf : Keyword := fun _ declared subject _ =>
  match declared, subject.value with
  | .number d, .number n =>
    match isMultiple n d with
    | .ok true => return []
    | .ok false =>
      return [.ofMessage (subject.value.render ++ " is not a multiple of " ++ declared.render)]
    | .error e => Walk.fail e
  | _, _ => return []

end SchemaCheck.Keyword
