import SchemaCheck.Walk

/-!
Keywords on the elements of arrays.
-/

namespace SchemaCheck.Keyword

/-- Either one schema for all elements or one schema per position. -/
def items : Keyword := fun w declared subject _ =>
  match subject.value, declared with
  | .array elements, .array schemas =>
    Walk.collect
      (fun ((element, i), schema) =>
        w.descendAt (subject.child (.index i) element) schema (some (.index i)) (some (.index i)))
      (elements.zipIdx.zip schemas)
  | .array elements, .object _ =>
    Walk.collect
      (fun (element, i) =>
        w.descendAt (subject.child (.index i) element) declared (some (.index i)) none)
      elements.zipIdx
  | _, _ => return []

/-- The schema for the elements beyond the positions of an `items` list. -/
def additionalItems : Keyword := fun w declared subject schema =>
  match subject.value, Json.Members.find? "items" schema with
  | .array elements, some (.array positional) =>
    let extras := elements.drop positional.length
    match declared with
    | .object _ =>
      Walk.collect
        (fun (element, i) =>
          w.descendAt (subject.child (.index i) element) declared (some (.index i)) none)
        (extras.zipIdx positional.length)
    | .bool false =>
      if extras.isEmpty then return []
      else
        return [.ofMessage ("Additional items are not allowed (" ++
          String.intercalate ", " (extras.map Json.render) ++ " " ++
          Wording.wasWere extras.length ++ " unexpected)")]
    | _ => return []
  | _, _ => return []

/-- Whether two elements are equal. -/
def hasRepeats : List Json → Bool
  | [] => false
  | j :: rest => rest.any j.equal || hasRepeats rest

def uniqueItems : Keyword := fun _ declared subject _ =>
  match declared, subject.value with
  | .bool true, .array elements =>
    if hasRepeats elements then
      return [.ofMessage (subject.value.render ++ " has non-unique elements")]
    else return []
  | _, _ => return []

end SchemaCheck.Keyword
