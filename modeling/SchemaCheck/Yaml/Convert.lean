import SchemaCheck.Json.Basic
import SchemaCheck.Yaml.Value

/-!
The conversion of values to JSON. Tags are dropped and simple keys become their text. Keys that are
null, collections or tagged and numbers that are not finite cannot be converted.
-/

namespace SchemaCheck.Yaml

namespace Number

def toJson? : Number → Option Json.Number
  | integer n => some (.integer n)
  | double x => some (.double x)
  | infinity _ => none
  | nan => none

/-- The text of a number in errors. -/
def spell : Number → String
  | infinity negative => if negative then "-inf" else "inf"
  | nan => "NaN"
  | n => n.write

end Number

namespace Value

/-- The reasons for which a value cannot be converted. -/
inductive Obstacle where
  | number (n : Number)
  | key (v : Value)

def Obstacle.message : Obstacle → String
  | number n => "cannot represent float " ++ n.spell ++ " in JSON"
  | key v => "unsupported YAML map key type: " ++ v.describe

/-- The text of a simple key. -/
def keyText? : Value → Option String
  | string s => some s
  | number n => some n.write
  | bool b => some (toString b)
  | _ => none

mutual

def toJson : Value → Except Obstacle Json
  | null => .ok .null
  | bool b => .ok (.bool b)
  | number n =>
    match n.toJson? with
    | some n => .ok (.number n)
    | none => .error (.number n)
  | string s => .ok (.string s)
  | sequence items => do
    return .array (← toJsonItems items)
  | mapping entries => do
    return .object (Json.Members.ofList (← toJsonEntries entries))
  | tagged _ value => toJson value

def toJsonItems : List Value → Except Obstacle (List Json)
  | [] => .ok []
  | item :: rest => do
    let j ← toJson item
    return j :: (← toJsonItems rest)

def toJsonEntries : List (Value × Value) → Except Obstacle (List (String × Json))
  | [] => .ok []
  | (key, value) :: rest => do
    match keyText? key with
    | none => .error (.key key)
    | some text =>
      let j ← toJson value
      return (text, j) :: (← toJsonEntries rest)

end

end Value

end SchemaCheck.Yaml
