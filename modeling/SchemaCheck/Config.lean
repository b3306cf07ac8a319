import SchemaCheck.Json.Parser

/-!
Settings of a validation: whether unknown properties are banned, and which draft's vocabulary
applies. Both are read from settings files.
-/

namespace SchemaCheck

structure Config where
  bansUnknown : Bool
  deriving DecidableEq

/-- The draft of the schema language. -/
inductive Draft where
  | draft3
  | draft4
  deriving DecidableEq

namespace Config

/-- The ban is on unless it is switched off. -/
def standard : Config := ⟨true⟩

/-- The ban is off except where a schema asks for it. -/
def permissive : Config := ⟨false⟩

def fieldName : String := "banUnknownProperties"

def toJson (c : Config) : Json :=
  .object [(fieldName, .bool c.bansUnknown)]

/-- The setting in a list of fields, which must not name it twice; other fields are ignored. -/
def ofFields? (fields : List (String × Json)) : Option Config :=
  match fields.filter (·.1 = fieldName) with
  | [] => some standard
  | [(_, .bool b)] => some ⟨b⟩
  | _ => none

/-- A configuration is written as an object, or as the list of its values. -/
def parse? (text : String) : Option Config :=
  match Json.written? text with
  | some (.object fields) => ofFields? fields
  | some (.array []) => some standard
  | some (.array [.bool b]) => some ⟨b⟩
  | _ => none

end Config

namespace Draft

def name : Draft → String
  | draft3 => "draft3"
  | draft4 => "draft4"

def ofName? (text : String) : Option Draft :=
  if text = draft3.name then some draft3
  else if text = draft4.name then some draft4
  else none

/-- A draft is written as its name, or as an object that has it as its one key, with `null`. -/
def parse? (text : String) : Option Draft :=
  match Json.written? text with
  | some (.string s) => ofName? s
  | some (.object [(s, .null)]) => ofName? s
  | _ => none

end Draft

end SchemaCheck
