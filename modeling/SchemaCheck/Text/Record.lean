import SchemaCheck.Text.Quoted

/-!
Records as text for messages: the name of the record and its fields in braces, with two dots at the
end if some fields are omitted.
-/

namespace SchemaCheck.Record

def inBraces (items : List String) : String :=
  match items with
  | [] => "\x7b\x7d"
  | _ => "\x7b " ++ String.intercalate ", " items ++ " \x7d"

def field (entry : String × String) : String :=
  entry.1 ++ ": " ++ entry.2

/-- A record with all of its fields. -/
def write (name : String) (fields : List (String × String)) : String :=
  name ++ " " ++ inBraces (fields.map field)

/-- A record with some of its fields. -/
def writePartly (name : String) (fields : List (String × String)) : String :=
  name ++ " " ++ inBraces (fields.map field ++ [".."])

def list (items : List String) : String :=
  "[" ++ String.intercalate ", " items ++ "]"

def boolean (b : Bool) : String :=
  if b then "true" else "false"

end SchemaCheck.Record
